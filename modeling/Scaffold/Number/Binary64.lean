import Scaffold.Number.Power

/-!
# Binary floating point numbers

A number of 64 bits: a sign, an exponent of 11 bits and a fraction of 52 bits.  Every operation is
exact arithmetic on natural numbers followed by one rounding, to the nearest number and to the even
one of two equally near.
-/

namespace Scaffold

structure Binary64 where
  bits : UInt64
deriving DecidableEq, Repr

namespace Binary64

/-- How many fractions there are. -/
def fractionCount : Nat := powerOfTwo 52

/-- The biased exponent that stands for infinity and for values that are not numbers. -/
def topExponent : Nat := 2047

/-- The exponent of the smallest step, `2 ^ (-1074)`. -/
def leastStep : Int := -1074

def isNegative (x : Binary64) : Bool := powerOfTwo 63 ≤ x.bits.toNat

def exponentField (x : Binary64) : Nat := x.bits.toNat / fractionCount % powerOfTwo 11

def fractionField (x : Binary64) : Nat := x.bits.toNat % fractionCount

def isInfinite (x : Binary64) : Bool := x.exponentField == topExponent && x.fractionField == 0

def isNaN (x : Binary64) : Bool := x.exponentField == topExponent && x.fractionField != 0

def isZero (x : Binary64) : Bool := x.exponentField == 0 && x.fractionField == 0

/-- The significand `m` of a finite number of absolute value `m * 2 ^ step`. -/
def significand (x : Binary64) : Nat :=
  if x.exponentField = 0 then x.fractionField else fractionCount + x.fractionField

def step (x : Binary64) : Int :=
  if x.exponentField = 0 then leastStep else leastStep + (x.exponentField - 1 : Nat)

def ofMagnitude (negative : Bool) (magnitude : Nat) : Binary64 :=
  ⟨UInt64.ofNat ((if negative then powerOfTwo 63 else 0) + magnitude)⟩

def zero (negative : Bool) : Binary64 := ofMagnitude negative 0

def infinity (negative : Bool) : Binary64 := ofMagnitude negative (topExponent * fractionCount)

/-- The quotient rounded to the nearest natural number, a half to the even neighbour. -/
def roundedQuotient (num den : Nat) : Nat :=
  let q := num / den
  let r := num % den
  if 2 * r < den then q else if 2 * r > den then q + 1 else if q % 2 = 0 then q else q + 1

/-- The number nearest to `num / den`, infinity when that lies beyond the largest number. -/
def ofRatio (negative : Bool) (num den : Nat) : Binary64 :=
  if num = 0 ∨ den = 0 then zero negative
  else
    let guess : Int := (Nat.log2 num : Int) - (Nat.log2 den : Int)
    let reaches : Bool :=
      if 0 ≤ guess then den * powerOfTwo guess.toNat ≤ num
      else den ≤ num * powerOfTwo (-guess).toNat
    let exponent : Int := if reaches then guess else guess - 1
    let step : Int := max (exponent - 52) leastStep
    let m :=
      if 0 ≤ step then roundedQuotient num (den * powerOfTwo step.toNat)
      else roundedQuotient (num * powerOfTwo (-step).toNat) den
    let magnitude := (step - leastStep).toNat * fractionCount + m
    if topExponent * fractionCount ≤ magnitude then infinity negative
    else ofMagnitude negative magnitude

def ofNat (n : Nat) : Binary64 := ofRatio false n 1

def neg (x : Binary64) : Binary64 := ⟨x.bits ^^^ 0x8000000000000000⟩

/-- The absolute value of a finite number as a fraction. -/
def ratio (x : Binary64) : Nat × Nat :=
  if 0 ≤ x.step then (x.significand * powerOfTwo x.step.toNat, 1)
  else (x.significand, powerOfTwo (-x.step).toNat)

/-- The product with the number nearest to `10 ^ n`, rounded once. -/
def timesPowerOfTen (x : Binary64) (n : Nat) : Binary64 :=
  let (num, den) := x.ratio
  let (num', den') := (ofNat (powerOfTen n)).ratio
  ofRatio x.isNegative (num * num') (den * den')

/-- The quotient by the number nearest to `10 ^ n`, rounded once. -/
def overPowerOfTen (x : Binary64) (n : Nat) : Binary64 :=
  let (num, den) := x.ratio
  let (num', den') := (ofNat (powerOfTen n)).ratio
  ofRatio x.isNegative (num * den') (den * num')

/-- Equality of values: the two zeros are equal and a value that is no number equals nothing. -/
def sameValue (x y : Binary64) : Bool :=
  !x.isNaN && !y.isNaN && (x.bits == y.bits || (x.isZero && y.isZero))

end Binary64
end Scaffold
