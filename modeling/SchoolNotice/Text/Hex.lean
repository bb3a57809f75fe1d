/-!
Hexadecimal digits: written in lower case, read in either case.
-/

namespace SchoolNotice.Text.Hex

def digit (value : Nat) : Char := Char.ofNat (if value < 10 then 48 + value else 87 + value)

def value? (char : Char) : Option Nat :=
  if char.isDigit then some (char.toNat - 48)
  else if 'a' ≤ char ∧ char ≤ 'f' then some (char.toNat - 87)
  else if 'A' ≤ char ∧ char ≤ 'F' then some (char.toNat - 55)
  else none

/-- The digits of a number, the highest first and no zero in front. -/
def digits (value : Nat) : List Char := Nat.toDigits 16 value

theorem value_digit (value : Nat) (small : value < 16) : value? (digit value) = some value := by
  decide +revert

end SchoolNotice.Text.Hex
