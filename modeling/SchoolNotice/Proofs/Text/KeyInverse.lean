import Mathlib.Data.List.Chain
import SchoolNotice.Proofs.Text.KeyCase

/-!
There and back between the two spellings of a key. Snake case takes back exactly the camel case of keys without a
capital that do not begin with an underscore and a small letter. Camel case takes back exactly the snake case of
keys that do not begin with a capital and have no small letter behind an underscore. Either conversion leaves a
key that it wrote as it is.
-/

namespace SchoolNotice.Text.KeyCase

/-- No small letter stands behind an underscore. -/
def Parted (chars : List Char) : Prop :=
  chars.IsChain fun char next => ¬(char = '_' ∧ next.isLower = true)

structure CamelPlain (chars : List Char) : Prop where
  parted : Parted chars
  start : ∀ first, chars.head? = some first → first.isUpper = false

/-- A character that is not joined to the next one stays as it is. -/
theorem camel_cons {char : Char} {rest : List Char}
    (apart : ∀ next, rest.head? = some next → ¬(char = '_' ∧ next.isLower = true)) :
    camel (char :: rest) = char :: camel rest := by
  cases rest with
  | nil => rfl
  | cons next rest => rw [camel, if_neg (apart next rfl)]

theorem camel_cons_of_ne {char : Char} (different : char ≠ '_') (rest : List Char) :
    camel (char :: rest) = char :: camel rest :=
  camel_cons fun _ _ both => different both.1

theorem camel_of_parted {chars : List Char} (parted : Parted chars) : camel chars = chars := by
  induction chars with
  | nil => rfl
  | cons char rest induction =>
      obtain ⟨apart, behind⟩ := List.isChain_cons.mp parted
      rw [camel_cons apart, induction behind]

/-- A small letter at the start of what camel case writes was there before. -/
theorem head_of_camel {chars : List Char} {first : Char} (head : (camel chars).head? = some first)
    (lower : first.isLower = true) : chars.head? = some first := by
  fun_cases camel chars with
  | case1 => exact head
  | case2 char => exact head
  | case3 char next rest together =>
      rw [camel, if_pos together] at head
      cases head
      have capital := to_upper_capital together.2
      rw [not_capital_of_small lower] at capital
      cases capital
  | case4 char next rest apart =>
      rw [camel, if_neg apart] at head
      exact head

theorem ne_underscore_of_upper {char : Char} (capital : char.isUpper = true) : char ≠ '_' := by
  rintro rfl
  exact absurd capital (by decide)

theorem ne_underscore_of_lower {char : Char} (lower : char.isLower = true) : char ≠ '_' := by
  rintro rfl
  exact absurd lower (by decide)

theorem parted_camel (chars : List Char) : Parted (camel chars) := by
  fun_induction camel chars with
  | case1 => exact List.isChain_nil
  | case2 char => exact List.isChain_singleton char
  | case3 char next rest together induction =>
      have different := ne_underscore_of_upper (to_upper_capital together.2)
      exact List.isChain_cons.mpr ⟨fun _ _ both => different both.1, induction⟩
  | case4 char next rest apart induction =>
      apply List.isChain_cons.mpr
      constructor
      · rintro first head ⟨underscore, lower⟩
        cases head_of_camel head lower
        exact apart ⟨underscore, lower⟩
      · exact induction

/-- A small letter at the start of what snake case writes was there before. -/
theorem head_of_flat_map_snake {chars : List Char} {first : Char}
    (head : (chars.flatMap snakeChar).head? = some first) (lower : first.isLower = true) :
    chars.head? = some first := by
  cases chars with
  | nil => exact head
  | cons char rest =>
      rw [List.flatMap_cons, snakeChar] at head
      split at head
      · cases head
        exact absurd lower (by decide)
      · exact head

theorem camel_flat_map_snake {chars : List Char} (parted : Parted chars) :
    camel (chars.flatMap snakeChar) = chars := by
  induction chars with
  | nil => rfl
  | cons char rest induction =>
      obtain ⟨apart, behind⟩ := List.isChain_cons.mp parted
      by_cases capital : char.isUpper = true
      · rw [List.flatMap_cons, snakeChar, if_pos capital, List.cons_append, List.cons_append,
          List.nil_append, camel, if_pos ⟨rfl, to_lower_small capital⟩, to_upper_to_lower capital,
          induction behind]
      · have single := snake_char_of_small (Bool.eq_false_iff.mpr capital)
        rw [List.flatMap_cons, single, List.singleton_append, camel_cons, induction behind]
        rintro next head ⟨underscore, lower⟩
        exact apart next (head_of_flat_map_snake head lower) ⟨underscore, lower⟩

theorem snake_eq_flat_map {chars : List Char}
    (start : ∀ first, chars.head? = some first → first.isUpper = false) :
    snake chars = chars.flatMap snakeChar := by
  cases chars with
  | nil => rfl
  | cons first rest =>
      have small := start first rfl
      rw [snake, to_lower_of_small small, List.flatMap_cons, snake_char_of_small small]
      rfl

/-- Camel case takes snake case back, and from such keys only. -/
theorem camel_snake_iff {chars : List Char} : camel (snake chars) = chars ↔ CamelPlain chars := by
  constructor
  · intro same
    constructor
    case parted =>
      rw [← same]
      exact parted_camel (snake chars)
    case start =>
      intro first head
      cases chars with
      | nil => cases head
      | cons char rest =>
          cases head
          rcases to_lower_cases first with kept | lower
          · rw [← kept]
            exact to_lower_not_capital first
          · rw [snake, camel_cons_of_ne (ne_underscore_of_lower lower)] at same
            rw [← (List.cons.inj same).1]
            exact to_lower_not_capital first
  · intro plain
    rw [snake_eq_flat_map plain.start, camel_flat_map_snake plain.parted]

/-- Snake case takes camel case back, and from such keys only. -/
theorem snake_camel_iff {chars : List Char} : snake (camel chars) = chars ↔ Plain chars := by
  constructor
  · intro same
    constructor
    case small =>
      rw [← same]
      exact snake_small (camel chars)
    case start =>
      match chars, same with
      | [], _ => rfl
      | [char], _ => rfl
      | char :: next :: rest, same =>
          rw [startsJoined, Bool.and_eq_false_iff, beq_eq_false_iff_ne, ← Bool.not_eq_true,
            ← not_and_or]
          intro together
          rw [camel, if_pos together, snake, to_lower_to_upper together.2] at same
          have underscore : next = '_' := (List.cons.inj same).1.trans together.1
          exact ne_underscore_of_lower together.2 underscore
  · exact snake_camel

/-- The two spellings of a key take each other back exactly where they can, and to write a key in a spelling that
it already has changes nothing. -/
theorem spellings_inverse (key : String) :
    (snakeKey (camelKey key) = key ↔ Plain key.toList) ∧
    (camelKey (snakeKey key) = key ↔ CamelPlain key.toList) ∧
    Small (snakeKey key).toList ∧ snakeKey (snakeKey key) = snakeKey key ∧
    Parted (camelKey key).toList ∧ camelKey (camelKey key) = camelKey key := by
  have spelled (chars : List Char) : String.ofList chars = key ↔ chars = key.toList := by
    rw [← String.toList_inj, String.toList_ofList]
  have parted : Parted (camelKey key).toList := by
    rw [camelKey, String.toList_ofList]
    exact parted_camel key.toList
  constructor
  · rw [snakeKey, camelKey, String.toList_ofList, spelled, snake_camel_iff]
  constructor
  · rw [camelKey, snakeKey, String.toList_ofList, spelled, camel_snake_iff]
  constructor
  · exact snake_key_small key
  constructor
  · exact (snake_key_eq_iff (snakeKey key)).mpr (snake_key_small key)
  constructor
  · exact parted
  · rw [camelKey, camel_of_parted parted, String.ofList_toList]

example : snakeKey (camelKey "_first_name") = "first_name" := by decide

end SchoolNotice.Text.KeyCase
