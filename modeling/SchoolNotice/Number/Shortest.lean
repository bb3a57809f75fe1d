import SchoolNotice.Number.Binary64

/-!
The decimal text of a double: the fewest digits that read back as the same number, of those the
nearest, and on an exact tie the even one. Each candidate is tested exactly against the interval
of reals that round to the number.
-/

namespace SchoolNotice.Number

/-- The digits, read as one natural number, and the place of the decimal point: the number is
`0.digits * 10 ^ point`. -/
structure Decimal where
  digits : Nat
  point : Int
deriving DecidableEq, Repr

/-- A positive magnitude in quarters of its last binary place, with the ends of the interval of
reals that round to it. All three share the unit `2 ^ (exponent - 2)`. -/
structure RoundingInterval where
  low : Nat
  value : Nat
  high : Nat
  closed : Bool
  unit : Int

def Binary64.interval (number : Binary64) : RoundingInterval :=
  let quarters := 4 * number.significand
  let nearer := number.significand = Nat.pow 2 52 ∧ Binary64.leastExponent < number.exponent
  { low := quarters - (if nearer then 1 else 2)
    value := quarters
    high := quarters + 2
    closed := number.significand % 2 = 0
    unit := number.exponent - 2 }

def compareScaled (left : Nat) (unit : Int) (right : Nat) (power : Int) : Ordering :=
  compare (left * Nat.pow 2 unit.toNat * Nat.pow 10 (-power).toNat)
    (right * Nat.pow 10 power.toNat * Nat.pow 2 (-unit).toNat)

namespace RoundingInterval

def contains (interval : RoundingInterval) (digits : Nat) (power : Int) : Bool :=
  let low := compareScaled interval.low interval.unit digits power
  let high := compareScaled interval.high interval.unit digits power
  if interval.closed then low != .gt && high != .lt else low == .lt && high == .gt

/-- The greatest number of units `10 ^ power` that does not exceed the value. -/
def floorAt (interval : RoundingInterval) (power : Int) : Nat :=
  (interval.value * Nat.pow 2 interval.unit.toNat * Nat.pow 10 (-power).toNat) /
    (Nat.pow 10 power.toNat * Nat.pow 2 (-interval.unit).toNat)

/-- The exponent of the least power of ten above the value, so that
`10 ^ (point - 1) ≤ value < 10 ^ point`. -/
def pointOf (interval : RoundingInterval) : Int :=
  let guess := ((interval.value.log2 : Int) + interval.unit) * 30103 / 100000 + 1
  if compareScaled interval.value interval.unit 1 guess != .lt then guess + 1
  else if compareScaled interval.value interval.unit 1 (guess - 1) == .lt then guess - 1
  else guess

/-- The nearer of the value's two neighbours on the grid `10 ^ power` that lie in the interval. -/
def neighbour? (interval : RoundingInterval) (power : Int) : Option Nat :=
  let below := interval.floorAt power
  match interval.contains below power, interval.contains (below + 1) power with
  | false, false => none
  | true, false => some below
  | false, true => some (below + 1)
  | true, true =>
      match compareScaled (2 * interval.value) interval.unit (2 * below + 1) power with
      | .lt => some below
      | .gt => some (below + 1)
      | .eq => some (if below % 2 = 0 then below else below + 1)

end RoundingInterval

def withoutTrailingZeros (number : Nat) : Nat :=
  if zero : number = 0 then 0
  else if number % 10 = 0 then withoutTrailingZeros (number / 10) else number
termination_by number
decreasing_by omega

/-- The shortest decimal of a number that is not zero. Seventeen digits always suffice. -/
def Binary64.shortest (number : Binary64) : Decimal :=
  let interval := number.interval
  let point := interval.pointOf
  let found := (List.range' 1 17).findSome? fun (count : Nat) =>
    (interval.neighbour? (point - count)).map fun digits => (digits, point - count)
  let (digits, power) := found.getD (interval.floorAt (point - 17), point - 17)
  { digits := withoutTrailingZeros digits
    point := power + (toString digits).length }

/-- A double as text: positional while the point stands among the first sixteen places or at most
four zeros behind it, otherwise with a signed exponent; a whole number keeps one zero behind the
point. -/
def Binary64.text (number : Binary64) : String :=
  let sign := if number.negative then "-" else ""
  if number.isZero then sign ++ "0.0"
  else
    let decimal := number.shortest
    let digits := (toString decimal.digits).toList
    let point := decimal.point
    let body :=
      if 0 < point ∧ point ≤ 16 then
        let whole := point.toNat
        if digits.length ≤ whole then
          digits ++ List.replicate (whole - digits.length) '0' ++ ['.', '0']
        else digits.take whole ++ '.' :: digits.drop whole
      else if -5 < point ∧ point ≤ 0 then
        '0' :: '.' :: (List.replicate (-point).toNat '0' ++ digits)
      else
        let exponent := point - 1
        let mantissa := digits.take 1 ++ (if digits.length = 1 then [] else '.' :: digits.drop 1)
        mantissa ++ 'e' :: (if exponent < 0 then '-' else '+') :: (toString exponent.natAbs).toList
    sign ++ String.ofList body

end SchoolNotice.Number
