import Mathlib.Algebra.GroupWithZero.Nat
import SchoolNotice.Tenant.Uuid

/-!
An identifier is known by its text: the 32 digits can be read off the text, and the number off the digits.
-/

namespace SchoolNotice.Uuid

open SchoolNotice.Text

theorem digit_injective {value other : Nat} (small : value < 16) (also : other < 16)
    (same : Hex.digit value = Hex.digit other) : value = other := by
  have values := congrArg Hex.value? same
  rw [Hex.value_digit value small, Hex.value_digit other also] at values
  exact Option.some.inj values

theorem digit_ne_hyphen (value : Nat) (small : value < 16) : Hex.digit value ≠ '-' := by
  decide +revert

theorem length_digits (id : Uuid) : id.digits.length = 32 := by
  rw [digits, List.length_map, List.length_range]

theorem hyphen_not_mem_digits (id : Uuid) : '-' ∉ id.digits := by
  intro inside
  obtain ⟨place, _, same⟩ := List.mem_map.mp inside
  exact digit_ne_hyphen _ (Nat.mod_lt _ (by decide)) same

theorem filter_hyphenate {digits : List Char} (plain : '-' ∉ digits) :
    (hyphenate digits).filter (· != '-') = digits := by
  have kept (part : List Char) (inside : part <:+: digits) : part.filter (· != '-') = part := by
    apply List.filter_eq_self.mpr
    intro char member
    exact bne_iff_ne.mpr fun same => plain (inside.subset (same ▸ member))
  have group (first count : Nat) :
      ((digits.drop first).take count).filter (· != '-') = (digits.drop first).take count :=
    kept _ ((List.take_prefix _ _).isInfix.trans (List.drop_suffix _ _).isInfix)
  have join (first count : Nat) :
      (digits.drop first).take count ++ digits.drop (first + count) = digits.drop first := by
    rw [← List.drop_drop, List.take_append_drop]
  have start := kept _ (List.take_prefix 8 digits).isInfix
  have rest := kept _ (List.drop_suffix 20 digits).isInfix
  simp only [hyphenate, List.filter_append, List.filter_cons, bne_self_eq_false,
    Bool.false_eq_true, if_false, start, group, rest, List.append_assoc]
  rw [join 16 4, join 12 4, join 8 4, List.take_append_drop]

/-- Numbers with the same digits up to a place leave the same rest there. -/
theorem mod_pow_eq {value other : Nat} (count : Nat)
    (same : ∀ place < count, value / 16 ^ place % 16 = other / 16 ^ place % 16) :
    value % 16 ^ count = other % 16 ^ count := by
  induction count with
  | zero => rw [Nat.pow_zero, Nat.mod_one, Nat.mod_one]
  | succ count induction =>
      have lower := induction fun place before => same place (Nat.lt_succ_of_lt before)
      rw [Nat.mod_pow_succ, Nat.mod_pow_succ, lower, same count (Nat.lt_succ_self count)]

theorem digits_injective {id other : Uuid} (same : id.digits = other.digits) : id = other := by
  have digit (place : Nat) (within : place < 32) :
      id.bits.toNat / 16 ^ place % 16 = other.bits.toNat / 16 ^ place % 16 := by
    have written := List.map_inj_left.mp same (31 - place) (List.mem_range.mpr (by omega))
    have back : 31 - (31 - place) = place := by omega
    rw [back] at written
    exact digit_injective (Nat.mod_lt _ (by decide)) (Nat.mod_lt _ (by decide)) written
  have whole := mod_pow_eq 32 digit
  have small (id : Uuid) : id.bits.toNat % 16 ^ 32 = id.bits.toNat := Nat.mod_eq_of_lt id.bits.isLt
  rw [small, small] at whole
  exact congrArg Uuid.mk (BitVec.eq_of_toNat_eq whole)

theorem text_ne_empty (id : Uuid) : id.text ≠ "" := by
  intro empty
  have hyphenated : hyphenate id.digits = [] := by
    rw [text, ← String.ofList_nil] at empty
    exact String.ofList_injective empty
  have plain := filter_hyphenate (hyphen_not_mem_digits id)
  rw [hyphenated, List.filter_nil] at plain
  have length := length_digits id
  rw [← plain] at length
  cases length

theorem text_injective {id other : Uuid} (same : id.text = other.text) : id = other := by
  have hyphenated := String.ofList_injective same
  have plain := congrArg (List.filter (· != '-')) hyphenated
  rw [filter_hyphenate (hyphen_not_mem_digits id), filter_hyphenate (hyphen_not_mem_digits other)]
    at plain
  exact digits_injective plain

end SchoolNotice.Uuid
