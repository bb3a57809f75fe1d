import SchoolNotice.Text.Utf8

/-!
Texts stand in one order by their characters and by their bytes: a character with a larger code point has the
larger bytes, whatever follows it.
-/

namespace SchoolNotice.Text.Utf8

theorem cons_byte_lt_iff {first second : Nat} {rest others : List UInt8} (fits : first < 256)
    (also : second < 256) :
    UInt8.ofNat first :: rest < UInt8.ofNat second :: others ↔
      first < second ∨ first = second ∧ rest < others := by
  rw [List.cons_lt_cons_iff, UInt8.lt_iff_toNat_lt, ← UInt8.toNat_inj]
  rw [UInt8.toNat_ofNat', UInt8.toNat_ofNat', Nat.mod_eq_of_lt fits, Nat.mod_eq_of_lt also]

theorem encode_char_lt {first second : Char} (before : first < second) (rest others : List UInt8) :
    String.utf8EncodeChar first ++ rest < String.utf8EncodeChar second ++ others := by
  have smaller : first.val.toNat < second.val.toNat := before
  have bound : second.val.toNat < 0x110000 := by
    rcases second.valid with low | high
    · exact Nat.lt_trans low (by decide)
    · exact high.2
  have twice (code : Nat) : code / 4096 = code / 64 / 64 := (Nat.div_div_eq_div_mul code 64 64).symm
  have thrice (code : Nat) : code / 262144 = code / 64 / 64 / 64 := by
    rw [Nat.div_div_eq_div_mul, Nat.div_div_eq_div_mul]
  -- A longer form begins with a larger byte; in two forms of one length the bytes are the digits of the code
  -- points, from the highest on.
  fun_cases String.utf8EncodeChar first <;> fun_cases String.utf8EncodeChar second <;>
    simp (disch := omega) only [twice, thrice, List.cons_append, List.nil_append, cons_byte_lt_iff] <;>
    omega

theorem bytes_cons (char : Char) (rest : List Char) :
    bytes (char :: rest) = String.utf8EncodeChar char ++ bytes rest := List.flatMap_cons

theorem bytes_lt {first second : List Char} (before : first < second) :
    bytes first < bytes second := by
  induction first generalizing second with
  | nil =>
      cases second with
      | nil => exact absurd before (List.lt_irrefl [])
      | cons char rest =>
          obtain ⟨byte, others, shown⟩ := List.exists_cons_of_ne_nil (String.utf8EncodeChar_ne_nil (c := char))
          rw [bytes_cons, shown]
          exact List.nil_lt_cons byte (others ++ bytes rest)
  | cons char rest induction =>
      cases second with
      | nil => exact absurd before (List.not_lt_nil (char :: rest))
      | cons other others =>
          rw [bytes_cons, bytes_cons]
          rcases List.cons_lt_cons_iff.mp before with less | same
          · exact encode_char_lt less (bytes rest) (bytes others)
          · rw [same.1]
            exact List.append_left_lt (induction same.2)

theorem bytes_le_iff (first second : String) :
    bytes first.toList ≤ bytes second.toList ↔ first ≤ second := by
  constructor
  · intro ordered
    apply String.not_lt.mp
    intro after
    exact ordered (bytes_lt (String.lt_iff.mp after))
  · intro ordered
    by_cases before : first < second
    · exact List.le_of_lt (bytes_lt (String.lt_iff.mp before))
    · rw [String.le_antisymm ordered (String.not_lt.mp before)]
      exact List.le_refl (bytes second.toList)

end SchoolNotice.Text.Utf8
