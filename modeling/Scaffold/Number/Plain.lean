import Scaffold.Number.Shortest

/-!
# Plain decimals

Numbers written with digits, a sign and a point, and without an exponent.
-/

namespace Scaffold
namespace Binary64

def decimalValue (digits : List Char) : Nat :=
  digits.foldl (fun n c => n * 10 + (c.toNat - 48)) 0

/-- Reads digits with at most one point among them and a minus sign in front of them. -/
def ofPlain? (cs : List Char) : Option Binary64 :=
  let (negative, body) :=
    match cs with
    | '-' :: rest => (true, rest)
    | _ => (false, cs)
  let whole := body.takeWhile Char.isDigit
  match body.dropWhile Char.isDigit with
  | [] => if whole.isEmpty then none else some (ofRatio negative (decimalValue whole) 1)
  | '.' :: places =>
      if places.all Char.isDigit && !(whole.isEmpty && places.isEmpty) then
        some (ofRatio negative (decimalValue (whole ++ places)) (powerOfTen places.length))
      else none
  | _ => none

/-- The shortest decimal, written out; infinity is `inf`. -/
def plainText (x : Binary64) : String :=
  let sign := if x.isNegative then "-" else ""
  if x.isNaN then "NaN"
  else if x.isInfinite then sign ++ "inf"
  else sign ++ (Decimal.shortest .upward x).positional ""

end Binary64
end Scaffold
