import Scaffold.Number.Binary64

/-!
# Shortest decimals

The decimal of a finite number is the one with the fewest digits among those that round back to the
number, and of these the nearest one.
-/

namespace Scaffold

/-- The decimal `digits * 10 ^ exponent`. -/
structure Decimal where
  digits : Nat
  exponent : Int
deriving DecidableEq, Repr

namespace Decimal

/-- What becomes of a number exactly between two decimals of equal length. -/
inductive Tie where
  | toEven
  | upward
deriving DecidableEq

/-- A number with the interval of reals that round to it, as multiples of one unit: the number is
`middle`, the ends are `low` and `high`, and the unit is `2 ^ unit`. -/
structure Interval where
  low : Nat
  middle : Nat
  high : Nat
  unit : Int
  closed : Bool

/-- Below a power of two the numbers lie twice as dense, so the lower end is half as far. -/
def Interval.of (x : Binary64) : Interval :=
  let m := x.significand
  let dense := x.fractionField = 0 && 1 < x.exponentField
  { low := 4 * m - (if dense then 1 else 2)
    middle := 4 * m
    high := 4 * m + 2
    unit := x.step - 2
    closed := m % 2 = 0 }

/-- The factors that make `c * 10 ^ p` and `n * 2 ^ unit` comparable as natural numbers. -/
def Interval.scales (i : Interval) (p : Int) : Nat × Nat :=
  ( powerOfTen p.toNat * powerOfTwo (-i.unit).toNat,
    powerOfTwo i.unit.toNat * powerOfTen (-p).toNat )

/-- The multiple of `10 ^ p` nearest to the number, if one rounds back to the number. -/
def Interval.onGrid? (i : Interval) (tie : Tie) (p : Int) : Option Decimal :=
  let (grid, unit) := i.scales p
  let inside (c : Nat) : Bool :=
    let v := c * grid
    if i.closed then i.low * unit ≤ v && v ≤ i.high * unit
    else i.low * unit < v && v < i.high * unit
  let below := i.middle * unit / grid
  let above := below + 1
  let belowDistance := i.middle * unit - below * grid
  let aboveDistance := above * grid - i.middle * unit
  let preferBelow :=
    belowDistance < aboveDistance ||
      (belowDistance == aboveDistance && tie == .toEven && below % 2 == 0)
  match inside below, inside above with
  | true, true => some ⟨if preferBelow then below else above, p⟩
  | true, false => some ⟨below, p⟩
  | false, true => some ⟨above, p⟩
  | false, false => none

/-- An exponent of ten no smaller than that of the number's first digit. -/
def topExponent (x : Binary64) : Int :=
  ((Nat.log2 x.significand : Int) + x.step) * 30103 / 100000 + 1

/-- Removes the zeros at the end of the digits. -/
def normalize (fuel : Nat) (d : Decimal) : Decimal :=
  match fuel with
  | 0 => d
  | fuel + 1 =>
      if d.digits ≠ 0 ∧ d.digits % 10 = 0 then normalize fuel ⟨d.digits / 10, d.exponent + 1⟩
      else d

/-- The shortest decimal of a finite number. -/
def shortest (tie : Tie) (x : Binary64) : Decimal :=
  if x.isZero then ⟨0, 0⟩
  else
    let i := Interval.of x
    let found :=
      (List.range 20).findSome? fun (n : Nat) => i.onGrid? tie (topExponent x - (n : Int))
    (found.getD ⟨0, 0⟩).normalize 20

def digitCount (n : Nat) : Nat := (toString n).length

/-- The exponent of ten of the first digit. -/
def leadingExponent (d : Decimal) : Int := d.exponent + digitCount d.digits - 1

/-- All digits written out around a point, without an exponent; a whole number ends in `whole`. -/
def positional (whole : String) (d : Decimal) : String :=
  if 0 ≤ d.exponent then
    toString d.digits ++ String.ofList (List.replicate d.exponent.toNat '0') ++ whole
  else
    let places := (-d.exponent).toNat
    let text := toString d.digits
    let padded := List.replicate (places + 1 - text.length) '0' ++ text.toList
    let split := padded.length - places
    String.ofList (padded.take split) ++ "." ++ String.ofList (padded.drop split)

/-- One digit, the other digits behind a point, and the exponent of the first digit. -/
def scientific (d : Decimal) : String :=
  let mantissa :=
    match (toString d.digits).toList with
    | [] => "0"
    | [c] => c.toString
    | c :: rest => c.toString ++ "." ++ String.ofList rest
  let exponent := d.leadingExponent
  mantissa ++ "e" ++ (if 0 ≤ exponent then "+" else "-") ++ toString exponent.natAbs

end Decimal
end Scaffold
