import SchoolNotice.Proofs.Text.KeyCase

/-!
Words that have two spellings, each of which leads to the other. In a word every underscore stands before a small
letter and none at the start, so that camel case takes them all out and snake case puts them all back.
-/

namespace SchoolNotice.Text.KeyCase

def joined : List Char → Bool
  | [] => true
  | char :: rest => (char != '_' || rest.head?.any Char.isLower) && joined rest

/-- A key of small words with underscores between them. -/
structure Word (chars : List Char) : Prop where
  filled : chars ≠ []
  small : Small chars
  undotted : '.' ∉ chars
  start : chars.head? ≠ some '_'
  joined : joined chars = true

instance (chars : List Char) : Decidable (Word chars) :=
  decidable_of_iff
    (chars ≠ [] ∧ Small chars ∧ '.' ∉ chars ∧ chars.head? ≠ some '_' ∧ joined chars = true)
    ⟨fun all => ⟨all.1, all.2.1, all.2.2.1, all.2.2.2.1, all.2.2.2.2⟩,
      fun word => ⟨word.filled, word.small, word.undotted, word.start, word.joined⟩⟩

inductive Spelling (key : List Char) : List Char → Prop
  | plain : Spelling key key
  | camel : Spelling key (camel key)

theorem Word.plain {key : List Char} (word : Word key) : Plain key := by
  constructor
  case small => exact word.small
  case start =>
    match key, word.start with
    | [], _ => rfl
    | [char], _ => rfl
    | char :: next :: rest, start =>
        have different : char ≠ '_' := fun same => start (congrArg some same)
        rw [startsJoined, beq_eq_false_iff_ne.mpr different, Bool.false_and]

theorem camel_of_unjoined {chars : List Char} (absent : '_' ∉ chars) : camel chars = chars := by
  fun_induction camel chars with
  | case1 => rfl
  | case2 char => rfl
  | case3 char next rest together induction => exact absurd (together.1 ▸ List.mem_cons_self) absent
  | case4 char next rest apart induction =>
      rw [induction fun inside => absent (List.mem_cons_of_mem char inside)]

theorem underscore_not_mem_camel {chars : List Char} (all : joined chars = true) :
    '_' ∉ camel chars := by
  fun_induction camel chars with
  | case1 => exact List.not_mem_nil
  | case2 char =>
      rw [joined, List.head?_nil, Option.any_none, Bool.or_false, Bool.and_eq_true, bne_iff_ne] at all
      rw [List.mem_singleton]
      exact Ne.symm all.1
  | case3 char next rest together induction =>
      rw [joined, joined, Bool.and_eq_true, Bool.and_eq_true] at all
      rw [List.mem_cons, not_or]
      constructor
      · intro same
        have capital := to_upper_capital together.2
        rw [← same] at capital
        exact absurd capital (by decide)
      · exact induction all.2.2
  | case4 char next rest apart induction =>
      rw [joined, List.head?_cons, Option.any_some, Bool.and_eq_true, Bool.or_eq_true, bne_iff_ne] at all
      rw [List.mem_cons, not_or]
      constructor
      · intro same
        rcases all.1 with different | lower
        · exact different same.symm
        · exact apart ⟨same.symm, lower⟩
      · exact induction all.2

theorem alternate_word {key : List Char} (word : Word key) (other : List Char) :
    alternate key = some other ↔ other = camel key ∧ other ≠ key := by
  rw [alternate, small_iff.mp word.small, if_neg Bool.false_ne_true, Option.filter_eq_some_iff, bne_iff_ne]
  apply and_congr_left
  intro different
  split
  next => rw [Option.some_inj, eq_comm]
  next absent =>
    rw [camel_of_unjoined absent]
    exact iff_of_false (Option.some_ne_none other).symm different

theorem alternate_camel {key : List Char} (word : Word key) (other : List Char) :
    alternate (camel key) = some other ↔ other = key ∧ other ≠ camel key := by
  have absent := underscore_not_mem_camel word.joined
  rw [alternate, if_neg absent, Option.filter_eq_some_iff, bne_iff_ne, snake_camel word.plain]
  apply and_congr_left
  intro different
  split
  next => rw [Option.some_inj, eq_comm]
  next none =>
    -- Without a capital, camel case is the key itself.
    rw [camel_of_small (small_iff.mpr (Bool.eq_false_iff.mpr none))] at different
    exact iff_of_false (Option.some_ne_none other).symm different

/-- The spellings of a word are any one of them and the other that is derived from it. -/
theorem spelling_iff {key segment : List Char} (word : Word key) (spelling : Spelling key segment)
    (other : List Char) : Spelling key other ↔ other = segment ∨ alternate segment = some other := by
  have spelled : Spelling key other ↔ other = key ∨ other = camel key := by
    constructor
    · rintro (_ | _)
      · exact .inl rfl
      · exact .inr rfl
    · rintro (rfl | rfl)
      · exact .plain
      · exact .camel
  rw [spelled]
  cases spelling with
  | plain => rw [alternate_word word, or_and_left, and_iff_left (Decidable.em _)]
  | camel =>
      rw [alternate_camel word, or_and_left, and_iff_left (Decidable.em _), or_comm]

theorem snake_spelling {key spelled : List Char} (plain : Plain key) (spelling : Spelling key spelled) :
    snake spelled = key := by
  cases spelling with
  | plain => exact snake_of_small plain.small
  | camel => exact snake_camel plain

end SchoolNotice.Text.KeyCase
