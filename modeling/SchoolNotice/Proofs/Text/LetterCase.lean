/-!
The case of ASCII letters. A capital and its small letter give each other, and any other character stays as it
is in either case. What is particular to the letters is checked for the 26 of each case.
-/

namespace SchoolNotice.Text

variable {char : Char}

theorem of_codes {first count : Nat} (property : Char → Prop)
    (checked : ∀ code ∈ List.range' first count, property (Char.ofNat code))
    (least : first ≤ char.toNat) (below : char.toNat < first + count) : property char := by
  rw [← char.ofNat_toNat]
  exact checked char.toNat (List.mem_range'_1.mpr ⟨least, below⟩)

/-- What holds of the 26 capitals, one after another, holds of every capital. -/
theorem of_capital (property : Char → Prop)
    (checked : ∀ code ∈ List.range' 'A'.toNat 26, property (Char.ofNat code))
    (capital : char.isUpper = true) : property char := by
  have bounds : 'A'.toNat ≤ char.toNat ∧ char.toNat ≤ 'Z'.toNat := of_decide_eq_true capital
  exact of_codes property checked bounds.1 (Nat.lt_succ_of_le bounds.2)

theorem of_small_letter (property : Char → Prop)
    (checked : ∀ code ∈ List.range' 'a'.toNat 26, property (Char.ofNat code))
    (lower : char.isLower = true) : property char := by
  obtain ⟨least, greatest⟩ := Bool.and_eq_true_iff.mp lower
  have below : char.toNat < 'a'.toNat + 26 := Nat.lt_succ_of_le (of_decide_eq_true greatest)
  exact of_codes property checked (of_decide_eq_true least) below

theorem to_lower_small (capital : char.isUpper = true) : char.toLower.isLower = true :=
  of_capital (fun char => char.toLower.isLower = true) (by decide) capital

theorem to_upper_to_lower (capital : char.isUpper = true) : char.toLower.toUpper = char :=
  of_capital (fun char => char.toLower.toUpper = char) (by decide) capital

theorem not_capital_of_small (lower : char.isLower = true) : char.isUpper = false :=
  of_small_letter (fun char => char.isUpper = false) (by decide) lower

theorem to_upper_capital (lower : char.isLower = true) : char.toUpper.isUpper = true :=
  of_small_letter (fun char => char.toUpper.isUpper = true) (by decide) lower

theorem to_lower_to_upper (lower : char.isLower = true) : char.toUpper.toLower = char :=
  of_small_letter (fun char => char.toUpper.toLower = char) (by decide) lower

theorem to_lower_of_small (small : char.isUpper = false) : char.toLower = char :=
  dif_neg (of_decide_eq_false small)

theorem to_lower_cases (char : Char) : char.toLower = char ∨ char.toLower.isLower = true := by
  cases capital : char.isUpper with
  | true => exact .inr (to_lower_small capital)
  | false => exact .inl (to_lower_of_small capital)

theorem to_lower_not_capital (char : Char) : char.toLower.isUpper = false := by
  cases capital : char.isUpper with
  | true => exact not_capital_of_small (to_lower_small capital)
  | false =>
      rw [to_lower_of_small capital]
      exact capital

end SchoolNotice.Text
