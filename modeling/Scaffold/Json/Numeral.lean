import Scaffold.Json.Basic

/-!
# Reading numerals

A numeral without fraction and exponent that fits 64 bits is read exactly.  Any other numeral is
read as its first digits, as many as fit 64 bits without a sign, times a power of ten.  The power is
applied in one rounded operation, or in steps of `10 ^ 308` when it is smaller than that.
-/

namespace Scaffold
namespace Json

def isDigit (c : Char) : Bool := '0' ≤ c && c ≤ '9'

def digitValue (c : Char) : Nat := c.toNat - 48

/-- Appends digits while the number stays within the limit; gives the digits left over as well. -/
def absorb (limit : Nat) : Nat → List Char → Nat × List Char
  | n, [] => (n, [])
  | n, c :: rest =>
      let next := n * 10 + digitValue c
      if limit < next then (n, c :: rest) else absorb limit next rest

def significandLimit : Nat := powerOfTwo 64 - 1

def exponentLimit : Nat := powerOfTwo 31 - 1

/-- The number times `10 ^ e`, unless that is beyond the largest number. -/
def scaled (x : Binary64) (e : Int) : Option Binary64 :=
  if e.natAbs ≤ 308 then
    if 0 ≤ e then
      let r := x.timesPowerOfTen e.natAbs
      if r.isInfinite then none else some r
    else some (x.overPowerOfTen e.natAbs)
  else if x.isZero then some x
  else if 0 ≤ e then none
  else scaled (x.overPowerOfTen 308) (e + 308)
termination_by e.natAbs
decreasing_by omega

/-- The parts of a numeral as they are written. -/
structure NumeralText where
  negative : Bool
  whole : List Char
  fraction : Option (List Char)
  exponent : Option (Bool × List Char)

def withSign (negative : Bool) (x : Binary64) : Binary64 := if negative then x.neg else x

/-- The value of a numeral, unless it is beyond the largest number. -/
def NumeralText.value? (t : NumeralText) : Option Numeral :=
  let (head, dropped) := absorb significandLimit 0 t.whole
  match t.fraction, t.exponent, dropped with
  | none, none, [] =>
      if !t.negative then some (.whole head)
      else if head = 0 ∨ powerOfTwo 63 < head then some (.real (Binary64.ofNat head).neg)
      else some (.whole (-(head : Int)))
  | fraction, exponent, _ =>
      let places := fraction.getD []
      let (significand, unread) := absorb significandLimit head places
      let shift : Int := dropped.length - (places.length - unread.length : Nat)
      let real (e : Int) : Option Numeral :=
        (scaled (Binary64.ofNat significand) e).map fun x => .real (withSign t.negative x)
      match exponent with
      | none => real shift
      | some (downward, digits) =>
          match absorb exponentLimit 0 digits with
          | (e, []) => real (if downward then shift - e else shift + e)
          | (_, _ :: _) =>
              if significand ≠ 0 ∧ !downward then none
              else some (.real (Binary64.zero t.negative))

/-- A reading step gives a value and the text after it, or the text at which it had to stop. -/
abbrev Step (α : Type) := Except (List Char) (α × List Char)

def readFraction (cs : List Char) : Step (Option (List Char)) :=
  match cs with
  | '.' :: rest =>
      let digits := rest.takeWhile isDigit
      if digits.isEmpty then .error rest else .ok (some digits, rest.dropWhile isDigit)
  | _ => .ok (none, cs)

def readExponent (cs : List Char) : Step (Option (Bool × List Char)) :=
  match cs with
  | c :: rest =>
      if c = 'e' ∨ c = 'E' then
        let (downward, rest) :=
          match rest with
          | '+' :: more => (false, more)
          | '-' :: more => (true, more)
          | _ => (false, rest)
        let digits := rest.takeWhile isDigit
        if digits.isEmpty then .error rest
        else .ok (some (downward, digits), rest.dropWhile isDigit)
      else .ok (none, cs)
  | [] => .ok (none, cs)

/-- The digits in front of the point; a zero in front of another digit is refused. -/
def readWhole (cs : List Char) : Step (List Char) :=
  match cs.takeWhile isDigit with
  | [] => .error cs
  | '0' :: _ :: _ => .error (cs.drop 1)
  | digits => .ok (digits, cs.dropWhile isDigit)

def readNumeral (cs : List Char) : Except (List Char) (Numeral × List Char) := do
  let (negative, rest) :=
    match cs with
    | '-' :: rest => (true, rest)
    | _ => (false, cs)
  let (whole, rest) ← readWhole rest
  let (fraction, rest) ← readFraction rest
  let (exponent, rest) ← readExponent rest
  match NumeralText.value? ⟨negative, whole, fraction, exponent⟩ with
  | some n => .ok (n, rest)
  | none => .error rest

end Json
end Scaffold
