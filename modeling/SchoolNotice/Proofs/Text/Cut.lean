import Mathlib.Data.List.Infix
import Mathlib.Data.List.TakeWhile
import SchoolNotice.Text.Cut

/-!
What the cuts of a text find. The first doubled mark is the one with no doubled mark up to its
first half, and the last character with a property is the one with none behind it; either place
is the only one of its kind. Pieces between separators have none, and such pieces are what is found
where they are joined.
-/

namespace SchoolNotice.Text

/-- Decided over the characters of the text, before it is tried over all characters that there are. -/
instance (priority := high) decidableForallIn (kind : Char → Prop) [DecidablePred kind]
    (text : List Char) : Decidable (∀ char ∈ text, kind char) :=
  List.decidableBAll kind text

def Undoubled (mark : Char) (text : List Char) : Prop := ¬ [mark, mark] <:+: text

theorem undoubled_singleton (mark char : Char) : Undoubled mark [char] := by
  intro doubled
  have shorter := doubled.length_le
  simp at shorter

theorem undoubled_cons (mark char : Char) (text : List Char) :
    Undoubled mark (char :: text) ↔
      ¬ (char = mark ∧ text.head? = some mark) ∧ Undoubled mark text := by
  have front : [mark, mark] <+: char :: text ↔ char = mark ∧ text.head? = some mark := by
    cases text with
    | nil => simp
    | cons next rest => simp [List.cons_prefix_cons, eq_comm]
  simp only [Undoubled, List.infix_cons_iff, front, not_or]

theorem undoubled_of_suffix {mark : Char} {part text : List Char} (suffix : part <:+ text)
    (undoubled : Undoubled mark text) : Undoubled mark part := by
  intro doubled
  exact undoubled (doubled.trans suffix.isInfix)

theorem undoubled_append {mark : Char} {front back : List Char} :
    Undoubled mark (front ++ back) ↔ Undoubled mark front ∧ Undoubled mark back ∧
      ¬ (front.getLast? = some mark ∧ back.head? = some mark) := by
  induction front with
  | nil => simp [Undoubled]
  | cons char front induction =>
      rw [List.cons_append, undoubled_cons, undoubled_cons, induction]
      cases front with
      | nil =>
          simp only [List.nil_append, List.getLast?_nil, List.getLast?_singleton, List.head?_nil,
            Option.some.injEq, reduceCtorEq]
          tauto
      | cons next front =>
          simp only [List.cons_append, List.head?_cons, List.getLast?_cons_cons]
          tauto

/-- At another character the mark cannot be doubled. -/
theorem undoubled_around {mark char : Char} (apart : char ≠ mark) {front back : List Char} :
    Undoubled mark (front ++ char :: back) ↔ Undoubled mark front ∧ Undoubled mark back := by
  rw [undoubled_append, undoubled_cons, List.head?_cons, Option.some.injEq]
  simp [apart]

theorem undoubled_of_not_mem {mark : Char} {text : List Char} (absent : mark ∉ text) :
    Undoubled mark text := by
  intro doubled
  exact absent (doubled.subset List.mem_cons_self)

theorem undoubled_append_of_not_mem {mark : Char} {front back : List Char} (absent : mark ∉ front) :
    Undoubled mark (front ++ back) ↔ Undoubled mark back := by
  rw [undoubled_append]
  constructor
  · intro parts
    exact parts.2.1
  · intro undoubled
    refine ⟨undoubled_of_not_mem absent, undoubled, ?_⟩
    intro both
    exact absent (List.mem_of_getLast? both.1)

theorem cut_double_eq_none {mark : Char} {text : List Char} :
    cutDouble mark text = none ↔ Undoubled mark text := by
  fun_induction cutDouble mark text with
  | case1 => simp [Undoubled]
  | case2 char => simp [undoubled_singleton]
  | case3 char next rest both => simp [undoubled_cons, both]
  | case4 char next rest apart induction =>
      rw [Option.map_eq_none_iff, induction, undoubled_cons mark char, List.head?_cons,
        Option.some.injEq]
      exact ⟨fun undoubled => ⟨apart, undoubled⟩, And.right⟩

instance (mark : Char) (text : List Char) : Decidable (Undoubled mark text) :=
  decidable_of_iff (cutDouble mark text = none) cut_double_eq_none

/-- The cut is at the first doubled mark: up to its first half none is doubled. -/
theorem cut_double_eq_some {mark : Char} {text before after : List Char} :
    cutDouble mark text = some (before, after) ↔
      text = before ++ mark :: mark :: after ∧ Undoubled mark (before ++ [mark]) := by
  fun_induction cutDouble mark text generalizing before with
  | case1 => simp
  | case2 char =>
      have longer : [char] ≠ before ++ mark :: mark :: after := by
        intro same
        have lengths := congrArg List.length same
        simp at lengths
        omega
      simp [longer]
  | case3 char next rest both =>
      obtain ⟨rfl, rfl⟩ := both
      cases before with
      | nil => simp [undoubled_singleton, eq_comm]
      | cons first before =>
          -- A later place would leave the doubled mark at the front before it.
          have front : ¬ (next :: next :: rest = first :: (before ++ next :: next :: after) ∧
              Undoubled next (first :: (before ++ [next]))) := by
            intro other
            obtain ⟨same, undoubled⟩ := other
            obtain ⟨rfl, behind⟩ := List.cons.inj same
            have head := congrArg List.head? behind
            refine ((undoubled_cons next next _).1 undoubled).1 ⟨rfl, ?_⟩
            cases before <;> simp_all
          simpa using front
  | case4 char next rest apart induction =>
      cases before with
      | nil =>
          have front : ¬ (char :: next :: rest = mark :: mark :: after) := by
            intro same
            simp only [List.cons.injEq] at same
            exact apart ⟨same.1, same.2.1⟩
          simp [front]
      | cons first before =>
          simp only [Option.map_eq_some_iff, Prod.exists, Prod.mk.injEq, List.cons.injEq,
            List.cons_append, undoubled_cons]
          constructor
          · intro cut
            obtain ⟨inner, outer, found, ⟨rfl, rfl⟩, rfl⟩ := cut
            obtain ⟨whole, undoubled⟩ := induction.1 found
            refine ⟨⟨rfl, whole⟩, ?_, undoubled⟩
            intro both
            obtain ⟨rfl, head⟩ := both
            apply apart
            cases inner <;> simp_all
          · intro split
            obtain ⟨⟨rfl, whole⟩, _, undoubled⟩ := split
            exact ⟨before, after, induction.2 ⟨whole, undoubled⟩, ⟨rfl, rfl⟩, rfl⟩

theorem double_place_unique {mark : Char} {before before' after after' : List Char}
    (same : before ++ mark :: mark :: after = before' ++ mark :: mark :: after')
    (first : Undoubled mark (before ++ [mark])) (first' : Undoubled mark (before' ++ [mark])) :
    before = before' ∧ after = after' := by
  have cut : cutDouble mark (before ++ mark :: mark :: after) = some (before, after) :=
    cut_double_eq_some.2 ⟨rfl, first⟩
  rw [cut_double_eq_some.2 ⟨same, first'⟩] at cut
  simp only [Option.some.injEq, Prod.mk.injEq] at cut
  exact ⟨cut.1.symm, cut.2.symm⟩

theorem cut_last_eq_none {property : Char → Bool} {text : List Char} :
    cutLast property text = none ↔ ∀ char ∈ text, property char = false := by
  unfold cutLast
  simp only
  split
  · rename_i dropped
    simpa [List.dropWhile_eq_nil_iff] using dropped
  · rename_i char before dropped
    simp only [reduceCtorEq, false_iff]
    intro absent
    have found := List.head?_dropWhile_not (fun char => !property char) text.reverse
    rw [dropped] at found
    have member : char ∈ text := by
      have inside : char ∈ text.reverse.dropWhile fun char => !property char := by simp [dropped]
      exact List.mem_reverse.1 ((List.dropWhile_sublist _).mem inside)
    simp [absent char member] at found

theorem cut_last_eq_some {property : Char → Bool} {text before after : List Char} {char : Char} :
    cutLast property text = some (before, char, after) ↔
      text = before ++ char :: after ∧ property char = true ∧
        ∀ other ∈ after, property other = false := by
  constructor
  · intro cut
    refine ⟨cut_last_eq cut, ?_⟩
    unfold cutLast at cut
    simp only at cut
    split at cut
    · simp at cut
    · rename_i found rest dropped
      simp only [Option.some.injEq, Prod.mk.injEq] at cut
      obtain ⟨rfl, rfl, rfl⟩ := cut
      constructor
      · have stopped := List.head?_dropWhile_not (fun char => !property char) text.reverse
        rw [dropped] at stopped
        simpa using stopped
      · intro other member
        have taken := List.mem_takeWhile_imp (List.mem_reverse.1 member)
        simpa only [Bool.not_eq_true'] using taken
  · intro split
    obtain ⟨rfl, found, absent⟩ := split
    have taken : ∀ other ∈ after.reverse, (!property other) = true := by
      intro other member
      simp [absent other (List.mem_reverse.1 member)]
    unfold cutLast
    simp [List.dropWhile_append_of_pos taken, List.takeWhile_append_of_pos taken, found]

theorem last_place_unique {property : Char → Bool} {before before' after after' : List Char}
    {char char' : Char} (same : before ++ char :: after = before' ++ char' :: after')
    (found : property char = true) (absent : ∀ other ∈ after, property other = false)
    (found' : property char' = true) (absent' : ∀ other ∈ after', property other = false) :
    before = before' ∧ char = char' ∧ after = after' := by
  have cut : cutLast property (before ++ char :: after) = some (before, char, after) :=
    cut_last_eq_some.2 ⟨rfl, found, absent⟩
  rw [cut_last_eq_some.2 ⟨same, found', absent'⟩] at cut
  simp only [Option.some.injEq, Prod.mk.injEq] at cut
  obtain ⟨rfl, rfl, rfl⟩ := cut
  exact ⟨rfl, rfl, rfl⟩

theorem drop_start_eq_some {start text rest : List Char} :
    dropStart start text = some rest ↔ text = start ++ rest := by
  constructor
  · exact drop_start_eq
  · intro split
    subst split
    induction start with
    | nil => simp [dropStart]
    | cons char start induction => simp [dropStart, induction]

theorem split_ne_nil (separator : Char) (text : List Char) : split separator text ≠ [] := by
  fun_cases split separator text <;> exact List.cons_ne_nil _ _

theorem not_mem_of_mem_split {separator : Char} {text piece : List Char}
    (inside : piece ∈ split separator text) : separator ∉ piece := by
  fun_induction split separator text generalizing piece with
  | case1 =>
      rw [List.mem_singleton.mp inside]
      exact List.not_mem_nil
  | case2 rest induction =>
      rcases List.mem_cons.mp inside with rfl | behind
      · exact List.not_mem_nil
      · exact induction behind
  | case3 char rest different nothing induction =>
      rw [List.mem_singleton.mp inside, List.mem_singleton]
      exact Ne.symm different
  | case4 char rest different first pieces whole induction =>
      rw [whole] at induction
      rcases List.mem_cons.mp inside with rfl | behind
      · rw [List.mem_cons, not_or]
        exact ⟨Ne.symm different, induction List.mem_cons_self⟩
      · exact induction (List.mem_cons_of_mem first behind)

theorem split_of_not_mem {separator : Char} {piece : List Char} (plain : separator ∉ piece) :
    split separator piece = [piece] := by
  induction piece with
  | nil => rfl
  | cons char rest induction =>
      obtain ⟨different, behind⟩ := not_or.mp (List.mem_cons.not.mp plain)
      rw [split, if_neg (Ne.symm different), induction behind]

theorem split_append {separator : Char} {piece : List Char} (plain : separator ∉ piece)
    (rest : List Char) :
    split separator (piece ++ separator :: rest) = piece :: split separator rest := by
  induction piece with
  | nil => rw [List.nil_append, split, if_pos rfl]
  | cons char piece induction =>
      obtain ⟨different, behind⟩ := not_or.mp (List.mem_cons.not.mp plain)
      rw [List.cons_append, split, if_neg (Ne.symm different), induction behind]

/-- Pieces without a separator are found again where they were joined. -/
theorem split_intercalate {separator : Char} {pieces : List (List Char)} (filled : pieces ≠ [])
    (plain : ∀ piece ∈ pieces, separator ∉ piece) :
    split separator (List.intercalate [separator] pieces) = pieces := by
  induction pieces with
  | nil => exact absurd rfl filled
  | cons piece rest induction =>
      obtain ⟨first, behind⟩ := List.forall_mem_cons.mp plain
      cases rest with
      | nil => rw [List.intercalate_singleton, split_of_not_mem first]
      | cons next others =>
          rw [List.intercalate_cons_cons, List.append_assoc, List.singleton_append]
          rw [split_append first, induction (List.cons_ne_nil next others) behind]

/-! ## Pieces between doubled marks -/

section Doubled

variable {mark : Char}

theorem split_double_ne_nil (mark : Char) (text : List Char) : splitDouble mark text ≠ [] := by
  fun_cases splitDouble mark text <;> exact List.cons_ne_nil _ _

/-- A character that begins no doubled mark goes into the first piece of the text behind it. -/
theorem split_double_cons {char : Char} {text : List Char}
    (single : ¬ (char = mark ∧ text.head? = some mark)) :
    splitDouble mark (char :: text) = (splitDouble mark text).modifyHead (char :: ·) := by
  cases text with
  | nil => rfl
  | cons next rest =>
      have apart : ¬ (char = mark ∧ next = mark) := by
        intro both
        exact single ⟨both.1, congrArg some both.2⟩
      rw [splitDouble, if_neg apart]
      cases pieces : splitDouble mark (next :: rest) with
      | nil => exact absurd pieces (split_double_ne_nil mark _)
      | cons piece others => rfl

theorem split_double_of_undoubled {text : List Char} (undoubled : Undoubled mark text) :
    splitDouble mark text = [text] := by
  induction text with
  | nil => rfl
  | cons char rest induction =>
      obtain ⟨single, behind⟩ := (undoubled_cons mark char rest).mp undoubled
      rw [split_double_cons single, induction behind]
      rfl

/-- A text that goes on with a character apart from the mark is split as it was; its last piece
goes on with the first one behind. -/
theorem split_double_append {gap : Char} (apart : gap ≠ mark) (text : List Char) :
    ∃ front last, splitDouble mark text = front ++ [last] ∧
      ∀ rest, splitDouble mark (text ++ gap :: rest) =
        front ++ (splitDouble mark (gap :: rest)).modifyHead (last ++ ·) := by
  fun_induction splitDouble mark text with
  | case1 =>
      refine ⟨[], [], rfl, ?_⟩
      intro rest
      rw [List.nil_append, List.nil_append]
      exact (congrFun List.modifyHead_id _).symm
  | case2 char =>
      refine ⟨[], [char], rfl, ?_⟩
      intro rest
      apply split_double_cons
      intro both
      exact apart (Option.some.inj both.2)
  | case3 char next text both induction =>
      obtain ⟨front, last, pieces, behind⟩ := induction
      refine ⟨[] :: front, last, congrArg (List.cons []) pieces, ?_⟩
      intro rest
      rw [List.cons_append, List.cons_append, splitDouble, if_pos both, behind rest]
      rfl
  | case4 char next text single nothing => exact absurd nothing (split_double_ne_nil mark _)
  | case5 char next text single piece pieces whole induction =>
      obtain ⟨front, last, same, behind⟩ := induction
      have step : ∀ rest, splitDouble mark (char :: next :: text ++ gap :: rest) =
          (front ++ (splitDouble mark (gap :: rest)).modifyHead (last ++ ·)).modifyHead
            (char :: ·) := by
        intro rest
        rw [← behind rest]
        apply split_double_cons
        intro both
        exact single ⟨both.1, Option.some.inj both.2⟩
      rw [whole] at same
      cases front with
      | nil =>
          obtain ⟨rfl, rfl⟩ := List.cons.inj same
          refine ⟨[], char :: piece, rfl, ?_⟩
          intro rest
          rw [step rest, List.nil_append, List.modifyHead_modifyHead]
          rfl
      | cons first front =>
          obtain ⟨rfl, rfl⟩ := List.cons.inj same
          exact ⟨(char :: piece) :: front, last, rfl, step⟩

end Doubled

end SchoolNotice.Text
