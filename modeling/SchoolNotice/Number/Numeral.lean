import SchoolNotice.Number.Binary64

/-!
Numerals of data text and the numbers they stand for. A whole numeral that fits 64 bits is exact.
Any other is a double by this rule: digits are taken while they fit an unsigned 64-bit significand,
the significand is rounded to a double, and the double is multiplied or divided by the double
nearest to a power of ten. Too large a number stands for nothing.
-/

namespace SchoolNotice

/-- A number of data text: an exact integer or a double. -/
inductive Number where
  | integer (value : Int)
  | real (value : Number.Binary64)
deriving DecidableEq, Repr

namespace Number

def isZero : Number → Bool
  | .integer value => value == 0
  | .real value => value.isZero

/-- The parts of a numeral as written; every list of digits that stands is not empty. -/
structure Numeral where
  negative : Bool
  whole : List Nat
  fraction : List Nat
  /-- Whether the exponent is negative, and its digits. -/
  exponent : Option (Bool × List Nat)
deriving DecidableEq, Repr

/-- Appends digits to a significand while it stays below `2 ^ 64`; the rest is left over. -/
def takeFitting (significand : Nat) : List Nat → Nat × List Nat
  | [] => (significand, [])
  | digit :: rest =>
      if significand * 10 + digit < Nat.pow 2 64 then takeFitting (significand * 10 + digit) rest
      else (significand, digit :: rest)

def greatestPower : Nat := 308

def powerOfTen (power : Nat) : Binary64 :=
  (Binary64.nearest? false (Nat.pow 10 power) 1).getD (Binary64.zero false)

def divideRepeatedly (value : Binary64) : Nat → Option Binary64
  | 0 => some value
  | steps + 1 =>
      if value.isZero then some value
      else
        (value.div? (powerOfTen greatestPower)).bind fun smaller =>
          divideRepeatedly smaller steps

def divideByPower (value : Binary64) (power : Nat) : Option Binary64 :=
  let steps := (power - 1) / greatestPower
  (divideRepeatedly value steps).bind fun smaller =>
    smaller.div? (powerOfTen (power - steps * greatestPower))

def scaled? (significand : Nat) (power : Int) : Option Binary64 :=
  match Binary64.nearest? false significand 1 with
  | none => none
  | some value =>
      if power < 0 then divideByPower value (-power).toNat
      else if power.toNat ≤ greatestPower then value.mul? (powerOfTen power.toNat)
      else if value.isZero then some value
      else none

/-- An exponent as a number, unless it exceeds 31 bits. -/
def exponentValue? (digits : List Nat) : Option Nat :=
  let value := digits.foldl (fun value digit => value * 10 + digit) 0
  if value < Nat.pow 2 31 then some value else none

namespace Numeral

def magnitude? (numeral : Numeral) : Option Binary64 :=
  let (significand, dropped) := takeFitting 0 numeral.whole
  let (significand, unread) := takeFitting significand numeral.fraction
  let taken := numeral.fraction.length - unread.length
  let start : Int := (dropped.length : Int) - taken
  match numeral.exponent with
  | none => scaled? significand start
  | some (negative, digits) =>
      match exponentValue? digits with
      | some exponent =>
          scaled? significand (if negative then start - exponent else start + exponent)
      | none => if significand ≠ 0 ∧ !negative then none else some (Binary64.zero false)

def value? (numeral : Numeral) : Option Number :=
  let (significand, dropped) := takeFitting 0 numeral.whole
  let exact := numeral.fraction.isEmpty && numeral.exponent.isNone && dropped.isEmpty
  if exact && !numeral.negative then some (.integer significand)
  else if exact && 0 < significand && significand ≤ Nat.pow 2 63 then some (.integer (-significand))
  else numeral.magnitude?.map fun magnitude => .real { magnitude with negative := numeral.negative }

end Numeral

end Number

end SchoolNotice
