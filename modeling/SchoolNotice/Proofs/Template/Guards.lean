import SchoolNotice.Proofs.Template.Fallback
import SchoolNotice.Proofs.Template.Printed

/-!
# Slots under a guard

An opener reads its path as one word, a slot as a candidate between bars, and a value counts as true by
one list of cases and is printed by another. For a path that both readings leave as it is, a value that
counts as true is always printed as something. Only `false` and the zeros are printed and count as false.
-/

namespace SchoolNotice.Template

open SchoolNotice.Text

section Values

variable {value : Json}

/-- What is printed and still does not keep a block. -/
def IsNought (value : Json) : Prop :=
  value = .bool false ∨ ∃ number : Number, value = .number number ∧ number.isZero = true

theorem is_some_of_truthy (truthy : value.isTruthy = true) : (Filling.ofJson? value).isSome = true := by
  rw [is_some_of_json]
  constructor
  · rintro rfl
    cases truthy
  · rintro rfl
    cases truthy

theorem nought_iff :
    IsNought value ↔ value.isTruthy = false ∧ (Filling.ofJson? value).isSome = true := by
  cases value with
  | null => simp [IsNought, Filling.ofJson?]
  | bool flag => cases flag <;> simp [IsNought, Filling.ofJson?, Json.isTruthy]
  | number number => simp [IsNought, Filling.ofJson?, Json.isTruthy]
  | string text => by_cases empty : text = "" <;> simp [IsNought, Filling.ofJson?, Json.isTruthy, empty]
  | array items => simp [IsNought, Filling.ofJson?, Json.isTruthy]
  | object members => simp [IsNought, Filling.ofJson?, Json.isTruthy]

end Values

/-! ## One slot and what it writes -/

section Slots

variable {context : Context} {filling : Filling} {slot : Placeholder} {path : List Char}

theorem image_tag_ne_nil (address : List Char) : imageTag address ≠ [] := by
  intro empty
  have front := (List.append_eq_nil_iff.mp empty).1
  have opened : "<img src=\x22".toList = [] := (List.append_eq_nil_iff.mp front).1
  simp at opened

theorem write_ne_nil (filled : filling.text ≠ []) (window : List Char) : filling.write window ≠ [] := by
  cases filling with
  | other text => exact filled
  | string text =>
      rw [Filling.write]
      unfold embed?
      split
      · exact image_tag_ne_nil text
      · exact filled

/-- Whether a slot writes anything does not depend on the source before it. -/
theorem slot_writes_iff (before : List Char) :
    (Leaf.placeholder slot).write context before ≠ [] ↔ (slot.fill? context).isSome = true := by
  cases filled : slot.fill? context with
  | none => simp [Leaf.write, filled]
  | some filling =>
      have written := write_ne_nil (text_of_slot filled) (tail lookBack before)
      simpa [Leaf.write, filled] using written

theorem render_slot_alone {source : List Char} (tag : IsTag source (.placeholder slot))
    (context : Context) : render context source = (Leaf.placeholder slot).write context [] := by
  have alone := alone_iff.mpr tag
  rw [render, Node.ofText, alone, Node.ofTokens, Node.ofTokens]
  · simp [keptLeaves, interpolate, pieces, Leaf.ofToken]
  · simp

def slotOf (path : List Char) : Placeholder := .ofCandidates [.path path]

theorem fill_slot_of : (slotOf path).fill? context = (context.resolve? path).bind Filling.ofJson? := by
  simp [Placeholder.fill?, slotOf, Placeholder.ofCandidates, Candidate.fill?]

theorem fills_of_kept (kept : isKept context path = true) :
    ((slotOf path).fill? context).isSome = true := by
  obtain ⟨value, found, truthy⟩ := is_kept_iff.mp kept
  rw [fill_slot_of, found]
  exact is_some_of_truthy truthy

theorem fills_not_kept_iff :
    isKept context path = false ∧ ((slotOf path).fill? context).isSome = true ↔
      ∃ value, context.resolve? path = some value ∧ IsNought value := by
  rw [fill_slot_of, isKept]
  cases context.resolve? path with
  | none => simp
  | some value => simp [nought_iff]

end Slots

/-! ## One block -/

section Blocks

variable {path before after : List Char}

/-- An opener reads this path as one word, and a slot reads it as one candidate that is a path. -/
structure Guardable (path : List Char) : Prop where
  filled : path ≠ []
  plain : Plain path
  word : ∀ char ∈ path, isBlank char = false
  single : Undoubled '|' path
  bare : ¬ Quoted path
  undirected : path.head? ≠ some '#' ∧ path.head? ≠ some '/'

def guarded (path before after : List Char) : List Char :=
  blockOpener path ++ (before ++ enclose path ++ after) ++ blockClose

theorem Guardable.slot (guardable : Guardable path) :
    IsTag (enclose path) (.placeholder (slotOf path)) := by
  have writable : Candidate.Writable (.path path) :=
    .path guardable.plain guardable.single guardable.filled (trimmed_of_word guardable.word)
      guardable.bare
  have read := @written_slot_read [('\x27', .path path)] (List.cons_ne_nil _ _)
    (by simp [IsQuote]) (by simpa using writable) (by simpa using guardable.undirected)
  exact alone_iff.mp read

theorem unclosed_of_tag_free (free : TagFree before) : Unclosed (tokens before) := by
  intro close member
  have text := tag_free_iff.mp free _ member
  cases text

theorem leaves_of_tag_free (free : TagFree before) :
    ∃ texts : List (List Char), (tokens before).map Leaf.ofToken = texts.map Leaf.text ∧
      texts.flatten = before := by
  refine ⟨(tokens before).map Token.source, ?_, ?_⟩
  · apply leaves_of_slotless
    intro slot member
    have text := tag_free_iff.mp free _ member
    cases text
  · rw [tokens_scan, ← List.flatMap_def, scan_sources]

/-- The parser makes one block of it, and the slot is the one leaf in its body that is no text. -/
theorem nodes_guarded (guardable : Guardable path) (freeBefore : TagFree before)
    (freeAfter : TagFree after) :
    ∃ front back : List (List Char), front.flatten = before ∧ back.flatten = after ∧
      Node.ofText (guarded path before after) =
        [.block path (front.map .text ++ .placeholder (slotOf path) :: back.map .text)] := by
  have opener := is_tag_block_opener guardable.filled guardable.plain guardable.word
  obtain ⟨front, frontLeaves, frontText⟩ := leaves_of_tag_free freeBefore
  obtain ⟨back, backLeaves, backText⟩ := leaves_of_tag_free freeAfter
  have inside : Unclosed (tokens before ++ .placeholder (slotOf path) :: tokens after) := by
    intro close member
    rcases List.mem_append.mp member with early | late
    · exact unclosed_of_tag_free freeBefore close early
    · cases late with
      | tail _ late => exact unclosed_of_tag_free freeAfter close late
  have parts : tokens (guarded path before after) =
      .blockOpen (blockOpener path) path ::
        ((tokens before ++ .placeholder (slotOf path) :: tokens after) ++
          .blockClose blockClose :: []) := by
    have opened := scan_around_tag opener [] (before ++ (enclose path ++ (after ++ blockClose)))
    have closed := scan_around_tag is_tag_block_close after []
    rw [List.append_nil, scan_nil] at closed
    rw [List.nil_append, scan_nil, List.nil_append, scan_around_tag guardable.slot, closed] at opened
    simp only [tokens_scan, guarded, List.append_assoc, opened, List.cons_append]
  obtain ⟨groups, paired, nodes⟩ := nodes_paired (tokens (guarded path before after))
  rw [parts] at paired
  refine ⟨front, back, frontText, backText, ?_⟩
  rw [Node.ofText, nodes, paired_unique (.block inside .nil) paired]
  simp only [List.map_cons, List.map_nil, Group.node, List.map_append, frontLeaves, backLeaves,
    Leaf.ofToken]

theorem sources_of_texts (texts : List (List Char)) :
    (texts.map Leaf.text).flatMap Leaf.source = texts.flatten := by
  induction texts with
  | nil => rfl
  | cons text rest induction => rw [List.map_cons, List.flatMap_cons, induction]; rfl

theorem render_guarded (guardable : Guardable path) (freeBefore : TagFree before)
    (freeAfter : TagFree after) (context : Context) :
    render context (guarded path before after) =
      if isKept context path then
        before ++ (Leaf.placeholder (slotOf path)).write context before ++ after
      else [] := by
  obtain ⟨front, back, rfl, rfl, nodes⟩ := nodes_guarded guardable freeBefore freeAfter
  rw [render, nodes, keptLeaves, keptLeaves, List.append_nil]
  split
  · rw [interpolate, pieces_split, pieces_of_texts, pieces_of_texts, sources_of_texts,
      List.flatten_append, List.flatten_cons, List.append_assoc]
  · rfl

end Blocks

/-- A block whose body holds a slot for the block's own path. If it is kept, the slot stands between the
two texts and writes something; if the slot by itself would write nothing, the block is removed. The only
values that are written by the slot and remove the block are `false` and the zeros. -/
theorem guarded_slot_writes {path before after : List Char} (guardable : Guardable path)
    (freeBefore : TagFree before) (freeAfter : TagFree after) (context : Context) :
    (∃ front back : List (List Char), front.flatten = before ∧ back.flatten = after ∧
      Node.ofText (guarded path before after) =
        [.block path (front.map .text ++ .placeholder (slotOf path) :: back.map .text)]) ∧
    (isKept context path = true →
      (Leaf.placeholder (slotOf path)).write context before ≠ [] ∧
      render context (guarded path before after) =
        before ++ (Leaf.placeholder (slotOf path)).write context before ++ after) ∧
    (isKept context path = false → render context (guarded path before after) = []) ∧
    (render context (enclose path) = [] → isKept context path = false) ∧
    (isKept context path = false ∧ render context (enclose path) ≠ [] ↔
      ∃ value, context.resolve? path = some value ∧ IsNought value) := by
  have whole := render_guarded guardable freeBefore freeAfter context
  have alone : render context (enclose path) ≠ [] ↔
      ((slotOf path).fill? context).isSome = true := by
    rw [render_slot_alone guardable.slot, slot_writes_iff]
  refine ⟨nodes_guarded guardable freeBefore freeAfter, ?_, ?_, ?_, ?_⟩
  · intro kept
    rw [if_pos kept] at whole
    exact ⟨(slot_writes_iff before).mpr (fills_of_kept kept), whole⟩
  · intro removed
    rwa [removed, if_neg Bool.false_ne_true] at whole
  · intro nothing
    rw [Bool.eq_false_iff]
    intro kept
    exact alone.mpr (fills_of_kept kept) nothing
  · rw [alone, fills_not_kept_iff]

/-- Around the slot stand the halves of tags; the path is spelled with a bar, a quote and a dot. -/
theorem guarded_slot_writes_halves :
    Guardable "school.it's|phone".toList ∧ TagFree "\x7b\x7b#if Call \x7b".toList ∧
      TagFree "\x7d or \x7b\x7b!".toList ∧
      ∃ written, written ≠ [] ∧
        render ⟨[("school", .object [("it's|phone", .array [])])]⟩
            (guarded "school.it's|phone".toList "\x7b\x7b#if Call \x7b".toList
              "\x7d or \x7b\x7b!".toList) =
          "\x7b\x7b#if Call \x7b".toList ++ written ++ "\x7d or \x7b\x7b!".toList := by
  have guardable : Guardable "school.it's|phone".toList :=
    { filled := by decide
      plain := by decide
      word := by decide
      single := by decide
      bare := unquote_eq_none.mp (by decide)
      undirected := by decide }
  have freeBefore : TagFree "\x7b\x7b#if Call \x7b".toList := by
    rw [tag_free_iff]
    decide +kernel
  have freeAfter : TagFree "\x7d or \x7b\x7b!".toList := by
    rw [tag_free_iff]
    decide +kernel
  refine ⟨guardable, freeBefore, freeAfter, ?_⟩
  obtain ⟨-, kept, -⟩ := guarded_slot_writes guardable freeBefore freeAfter
    ⟨[("school", .object [("it's|phone", .array [])])]⟩
  exact ⟨_, kept (by decide +kernel)⟩

end SchoolNotice.Template
