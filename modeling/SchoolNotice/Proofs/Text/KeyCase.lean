import SchoolNotice.Proofs.Text.LetterCase
import SchoolNotice.Text.KeyCase

/-!
The spellings of a key. Snake case has no capitals and leaves a key without capitals as it is. It takes camel
case back, unless the key begins with an underscore and a small letter: the capital that these two become
stands at the start, where no underscore is put before it. Camel case changes a key only by capitals, so that a
key without them has another spelling only with them.
-/

namespace SchoolNotice.Text.KeyCase

def Small (chars : List Char) : Prop := ∀ char ∈ chars, char.isUpper = false

instance (chars : List Char) : Decidable (Small chars) :=
  List.decidableBAll (fun char : Char => char.isUpper = false) chars

theorem small_iff {chars : List Char} : Small chars ↔ chars.any Char.isUpper = false := by
  rw [List.any_eq_false]
  exact forall₂_congr fun char _ => Bool.eq_false_iff

theorem snake_char_small (char : Char) : Small (snakeChar char) := by
  unfold snakeChar
  split
  · intro other member
    rcases List.mem_cons.mp member with rfl | behind
    · rfl
    · rw [List.mem_singleton.mp behind]
      exact to_lower_not_capital char
  · next notCapital =>
    intro other member
    rw [List.mem_singleton.mp member]
    exact Bool.eq_false_iff.mpr notCapital

theorem snake_char_of_small {char : Char} (small : char.isUpper = false) :
    snakeChar char = [char] := by
  rw [snakeChar, if_neg (Bool.eq_false_iff.mp small)]

theorem snake_char_to_upper {char : Char} (lower : char.isLower = true) :
    snakeChar char.toUpper = ['_', char] := by
  rw [snakeChar, if_pos (to_upper_capital lower), to_lower_to_upper lower]

theorem snake_small (chars : List Char) : Small (snake chars) := by
  cases chars with
  | nil => nofun
  | cons first rest =>
      intro char member
      rcases List.mem_cons.mp member with rfl | behind
      · exact to_lower_not_capital first
      · obtain ⟨origin, _, inside⟩ := List.mem_flatMap.mp behind
        exact snake_char_small origin char inside

theorem flat_map_snake_of_small {chars : List Char} (small : Small chars) :
    chars.flatMap snakeChar = chars := by
  induction chars with
  | nil => rfl
  | cons first rest induction =>
      have tail := induction fun char member => small char (List.mem_cons_of_mem first member)
      rw [List.flatMap_cons, snake_char_of_small (small first List.mem_cons_self), tail]
      rfl

theorem snake_of_small {chars : List Char} (small : Small chars) : snake chars = chars := by
  cases chars with
  | nil => rfl
  | cons first rest =>
      have tail : Small rest := fun char member => small char (List.mem_cons_of_mem first member)
      rw [snake, to_lower_of_small (small first List.mem_cons_self), flat_map_snake_of_small tail]

theorem flat_map_snake_camel {chars : List Char} (small : Small chars) :
    (camel chars).flatMap snakeChar = chars := by
  fun_induction camel chars with
  | case1 => rfl
  | case2 char => exact flat_map_snake_of_small small
  | case3 char next rest joined induction =>
      obtain ⟨rfl, lower⟩ := joined
      have tail := induction fun char member =>
        small char (List.mem_cons_of_mem _ (List.mem_cons_of_mem _ member))
      rw [List.flatMap_cons, snake_char_to_upper lower, tail]
      rfl
  | case4 char next rest apart induction =>
      have tail := induction fun char member => small char (List.mem_cons_of_mem _ member)
      rw [List.flatMap_cons, snake_char_of_small (small char List.mem_cons_self), tail]
      rfl

def startsJoined : List Char → Bool
  | first :: next :: _ => first == '_' && next.isLower
  | _ => false

/-- No capital, and no underscore with a small letter at the start. -/
structure Plain (chars : List Char) : Prop where
  small : Small chars
  start : startsJoined chars = false

instance (chars : List Char) : Decidable (Plain chars) :=
  decidable_of_iff (Small chars ∧ startsJoined chars = false)
    ⟨fun both => ⟨both.1, both.2⟩, fun plain => ⟨plain.small, plain.start⟩⟩

theorem snake_camel {chars : List Char} (plain : Plain chars) : snake (camel chars) = chars := by
  match chars, plain with
  | [], _ => rfl
  | [char], plain => exact snake_of_small plain.small
  | char :: next :: rest, plain =>
      have apart : ¬(char = '_' ∧ next.isLower = true) := by
        rintro ⟨rfl, lower⟩
        have start := plain.start
        rw [startsJoined, lower, Bool.and_true, beq_self_eq_true] at start
        cases start
      have tail := flat_map_snake_camel fun other member =>
        plain.small other (List.mem_cons_of_mem char member)
      rw [camel, if_neg apart, snake, to_lower_of_small (plain.small char List.mem_cons_self), tail]

theorem snake_key_eq_iff (key : String) : snakeKey key = key ↔ Small key.toList := by
  constructor
  · intro same
    have spelled := congrArg String.toList same
    rw [snakeKey, String.toList_ofList] at spelled
    rw [← spelled]
    exact snake_small key.toList
  · intro small
    rw [snakeKey, snake_of_small small, String.ofList_toList]

theorem snake_key_small (key : String) : Small (snakeKey key).toList := by
  rw [snakeKey, String.toList_ofList]
  exact snake_small key.toList

theorem snake_key_camel_key {key : String} (plain : Plain key.toList) :
    snakeKey (camelKey key) = key := by
  rw [snakeKey, camelKey, String.toList_ofList, snake_camel plain, String.ofList_toList]

theorem snake_char_cases {char origin : Char} (inside : char ∈ snakeChar origin) :
    char = origin ∨ char = '_' ∨ char.isLower = true := by
  unfold snakeChar at inside
  split at inside
  · next capital =>
    rcases List.mem_cons.mp inside with rfl | behind
    · exact .inr (.inl rfl)
    · rw [List.mem_singleton.mp behind]
      exact .inr (.inr (to_lower_small capital))
  · exact .inl (List.mem_singleton.mp inside)

/-- Snake case brings in underscores and small letters only. -/
theorem mem_snake {char : Char} {chars : List Char} (inside : char ∈ snake chars) :
    char ∈ chars ∨ char = '_' ∨ char.isLower = true := by
  cases chars with
  | nil => exact .inl inside
  | cons first rest =>
      rcases List.mem_cons.mp inside with rfl | behind
      · rcases to_lower_cases first with same | lower
        · rw [same]
          exact .inl List.mem_cons_self
        · exact .inr (.inr lower)
      · obtain ⟨origin, there, made⟩ := List.mem_flatMap.mp behind
        rcases snake_char_cases made with rfl | other
        · exact .inl (List.mem_cons_of_mem first there)
        · exact .inr other

theorem undotted_snake {chars : List Char} (undotted : '.' ∉ chars) : '.' ∉ snake chars := by
  intro inside
  rcases mem_snake inside with there | same | lower
  · exact undotted there
  · exact absurd same (by decide)
  · exact absurd lower (by decide)

/-- Camel case puts capitals into a key or leaves it as it is. -/
theorem camel_of_small {chars : List Char} (small : Small (camel chars)) : camel chars = chars := by
  fun_induction camel chars with
  | case1 => rfl
  | case2 char => rfl
  | case3 char next rest joined induction =>
      have capital := to_upper_capital joined.2
      rw [small next.toUpper List.mem_cons_self] at capital
      cases capital
  | case4 char next rest apart induction =>
      rw [induction fun other member => small other (List.mem_cons_of_mem char member)]

/-- The other spelling of a key without capitals has one. -/
theorem alternate_not_small {key other : List Char} (small : Small key)
    (found : alternate key = some other) : ¬Small other := by
  rw [alternate, small_iff.mp small, if_neg Bool.false_ne_true] at found
  obtain ⟨spelled, different⟩ := Option.filter_eq_some_iff.mp found
  split at spelled
  · cases spelled
    intro alsoSmall
    rw [camel_of_small alsoSmall, bne_self_eq_false] at different
    cases different
  · cases spelled

end SchoolNotice.Text.KeyCase
