/-!
Finite double-precision numbers as exact pairs of significand and exponent, with rounding of a
quotient to the nearest of them. All arithmetic is on natural numbers, so nothing is lost before
the one rounding.
-/

namespace SchoolNotice.Number

/-- The number `significand * 2 ^ exponent`, negated if `negative`. Values built here have a
significand below `2 ^ 53`, and at least `2 ^ 52` unless the exponent is the least one, -1074. -/
structure Binary64 where
  negative : Bool
  significand : Nat
  exponent : Int
deriving DecidableEq, Repr

/-- The quotient rounded to the nearest natural number, a tie going to the even one. -/
def roundDiv (numerator denominator : Nat) : Nat :=
  let quotient := numerator / denominator
  let rest := numerator % denominator
  if denominator < 2 * rest ∨ (2 * rest = denominator ∧ quotient % 2 = 1) then quotient + 1
  else quotient

def overPowerOfTwo (numerator denominator : Nat) (exponent : Int) : Nat × Nat :=
  if 0 ≤ exponent then (numerator, denominator * Nat.pow 2 exponent.toNat)
  else (numerator * Nat.pow 2 (-exponent).toNat, denominator)

namespace Binary64

def leastExponent : Int := -1074

def zero (negative : Bool) : Binary64 := ⟨negative, 0, leastExponent⟩

def isZero (value : Binary64) : Bool := value.significand == 0

/-- The exponent with which a positive quotient has a significand of 53 bits, or the least one. -/
def exponentOf (numerator denominator : Nat) : Int :=
  let guess := (numerator.log2 : Int) - denominator.log2 - 52
  let (scaled, unit) := overPowerOfTwo numerator denominator guess
  max leastExponent (if scaled / unit < Nat.pow 2 52 then guess - 1 else guess)

/-- The number nearest to a quotient, ties to even; nothing if it is too large. -/
def nearest? (negative : Bool) (numerator denominator : Nat) : Option Binary64 :=
  if numerator = 0 then some (zero negative)
  else
    let exponent := exponentOf numerator denominator
    let (scaled, unit) := overPowerOfTwo numerator denominator exponent
    let significand := roundDiv scaled unit
    let (significand, exponent) :=
      if significand = Nat.pow 2 53 then (Nat.pow 2 52, exponent + 1) else (significand, exponent)
    if 971 < exponent then none else some ⟨negative, significand, exponent⟩

def fraction (value : Binary64) : Nat × Nat :=
  if 0 ≤ value.exponent then (value.significand * Nat.pow 2 value.exponent.toNat, 1)
  else (value.significand, Nat.pow 2 (-value.exponent).toNat)

def mul? (left right : Binary64) : Option Binary64 :=
  let (leftTop, leftBottom) := left.fraction
  let (rightTop, rightBottom) := right.fraction
  nearest? (left.negative != right.negative) (leftTop * rightTop) (leftBottom * rightBottom)

def div? (left right : Binary64) : Option Binary64 :=
  let (leftTop, leftBottom) := left.fraction
  let (rightTop, rightBottom) := right.fraction
  nearest? (left.negative != right.negative) (leftTop * rightBottom) (leftBottom * rightTop)

end Binary64

end SchoolNotice.Number
