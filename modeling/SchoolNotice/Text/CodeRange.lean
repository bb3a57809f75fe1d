/-!
Runs of character codes, by which the tables of character properties are written.
-/

namespace SchoolNotice.Text

/-- A run of character codes, both ends included. -/
abbrev CodeRange := Nat × Nat

def CodeRange.covers (ranges : List CodeRange) (char : Char) : Bool :=
  ranges.any fun (low, high) => low ≤ char.toNat && char.toNat ≤ high

end SchoolNotice.Text
