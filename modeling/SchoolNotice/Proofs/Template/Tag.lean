import SchoolNotice.Template.Scan
import SchoolNotice.Proofs.Text.Blank
import SchoolNotice.Proofs.Text.Cut

/-!
Tags at a place of a template. Reading what stands between the braces finds the tags of `IsTag` and
no others, `tagAt` finds the tag that a text begins with, and of two tags in one text neither
begins inside the other.
-/

namespace SchoolNotice.Template

open SchoolNotice.Text

abbrev Plain (text : List Char) : Prop := ∀ char ∈ text, isBrace char = false

theorem enclose_injective {inner other : List Char} (same : enclose inner = enclose other) :
    inner = other := by
  simpa [enclose] using same

theorem enclose_append (inner after : List Char) :
    enclose inner ++ after = '{' :: '{' :: (inner ++ '}' :: '}' :: after) := by
  simp [enclose]

/-- An opener's path is the word at the end, and blanks set it off. -/
theorem opener_path_eq_some {rest path : List Char}
    (ending : ∀ char, rest.getLast? = some char → isBlank char = false) :
    openerPath? rest = some path ↔
      ∃ blanks, rest = blanks ++ path ∧
        (blanks ≠ [] ∧ ∀ char ∈ blanks, isBlank char = true) ∧
        (path ≠ [] ∧ ∀ char ∈ path, isBlank char = false) := by
  constructor
  · intro opened
    simp only [openerPath?, Bool.and_eq_true, bne_iff_ne, ne_eq, Bool.not_eq_eq_eq_not,
      Bool.not_true, List.any_eq_false, Option.ite_none_right_eq_some, Option.some.injEq] at opened
    obtain ⟨⟨⟨separated, filled⟩, word⟩, rfl⟩ := opened
    have behind : trim rest = rest.dropWhile isBlank := by
      apply trim_end_eq_self
      intro char last
      apply ending
      have whole := List.takeWhile_append_dropWhile (p := isBlank) (l := rest)
      rw [← whole, List.getLast?_append, show rest.dropWhile isBlank = trimStart rest from rfl, last]
      rfl
    refine ⟨rest.takeWhile isBlank, ?_, ⟨?_, ?_⟩, filled, by simpa using word⟩
    · rw [behind, List.takeWhile_append_dropWhile]
    · cases rest with
      | nil => simp at separated
      | cons first rest =>
          have blank : isBlank first = true := by simpa using separated
          simp [blank]
    · intro char member
      exact List.mem_takeWhile_imp member
  · intro split
    obtain ⟨blanks, rfl, ⟨gap, blank⟩, filled, word⟩ := split
    have trimmed : trim (blanks ++ path) = path := by
      simpa using trim_padded (trimmed_of_word word) blank (List.forall_mem_nil _)
    have separated : ((blanks ++ path).head?.map isBlank).getD false = true := by
      cases blanks with
      | nil => exact absurd rfl gap
      | cons first blanks => simp [blank first (by simp)]
    unfold openerPath?
    simp only [trimmed, separated]
    simpa [filled] using word

/-- What is read between the braces is the tag that stands there. -/
theorem classify_eq_some {inner : List Char} {token : Token} (plain : Plain inner) :
    classify inner = some token ↔ IsTag (enclose inner) token := by
  constructor
  · intro classified
    unfold classify at classified
    simp only at classified
    split at classified
    · simp at classified
    · rename_i filled
      split at classified
      · rename_i rest opened
        rw [drop_start_eq_some] at opened
        simp only [Option.map_eq_some_iff] at classified
        obtain ⟨path, found, rfl⟩ := classified
        have ending : ∀ char, rest.getLast? = some char → isBlank char = false := by
          intro char last
          apply (trimmed_trim inner).2
          rw [opened, List.getLast?_append, last]
          rfl
        obtain ⟨blanks, rfl, separated, word⟩ := (opener_path_eq_some ending).1 found
        exact .blockOpen plain (by rw [opened, List.append_assoc]) separated word
      · split at classified
        · rename_i word
          obtain rfl := Option.some.inj classified
          exact .blockClose plain word
        · split at classified
          · simp at classified
          · rename_i undirected
            obtain rfl := Option.some.inj classified
            obtain ⟨first, rest, words⟩ := List.exists_cons_of_ne_nil filled
            rw [words] at undirected ⊢
            apply IsTag.placeholder plain words
            simpa using undirected
  · intro tag
    generalize same : enclose inner = source at tag
    cases tag with
    | blockClose _ word =>
        obtain rfl := enclose_injective same
        simp [classify, word, dropStart]
    | @blockOpen other blanks path _ words separated word =>
        obtain rfl := enclose_injective same
        have opened : dropStart ['#', 'i', 'f'] (trim inner) = some (blanks ++ path) := by
          rw [drop_start_eq_some, words, List.append_assoc]
        have ending : ∀ char, (blanks ++ path).getLast? = some char → isBlank char = false := by
          intro char last
          apply (trimmed_trim inner).2
          rw [words, List.append_assoc, List.getLast?_append, last]
          rfl
        have found := (opener_path_eq_some ending).2 ⟨blanks, rfl, separated, word⟩
        have filled : trim inner ≠ [] := by simp [words]
        simp [classify, filled, opened, found]
    | @placeholder other rest first _ words undirected =>
        obtain rfl := enclose_injective same
        simp [classify, words, dropStart, undirected]

/-- A tag is a text without braces between doubled braces, and what it means is read there. -/
theorem is_tag_iff {source : List Char} {token : Token} :
    IsTag source token ↔
      ∃ inner, source = enclose inner ∧ Plain inner ∧ classify inner = some token := by
  constructor
  · intro tag
    have enclosed : ∃ inner, source = enclose inner ∧ Plain inner := by
      cases tag with
      | blockClose plain _ => exact ⟨_, rfl, plain⟩
      | blockOpen plain _ _ _ => exact ⟨_, rfl, plain⟩
      | placeholder plain _ _ => exact ⟨_, rfl, plain⟩
    obtain ⟨inner, rfl, plain⟩ := enclosed
    exact ⟨inner, rfl, plain, (classify_eq_some plain).2 tag⟩
  · intro enclosed
    obtain ⟨inner, rfl, plain, classified⟩ := enclosed
    exact (classify_eq_some plain).1 classified

theorem source_of_tag {source : List Char} {token : Token} (tag : IsTag source token) :
    token.source = source := by
  obtain ⟨inner, rfl, _, classified⟩ := is_tag_iff.1 tag
  exact source_of_classify classified

theorem tag_at_enclose {inner : List Char} (plain : Plain inner) (after : List Char) :
    tagAt (enclose inner ++ after) = (classify inner).map fun token => (token, after) := by
  have unbraced : ∀ char ∈ inner, (!isBrace char) = true := by simpa using plain
  have opened : dropStart ['{', '{'] (enclose inner ++ after) =
      some (inner ++ '}' :: '}' :: after) := by
    rw [drop_start_eq_some, enclose_append]
    rfl
  have closed : dropStart ['}', '}'] ((inner ++ '}' :: '}' :: after).dropWhile
      fun char => !isBrace char) = some after := by
    rw [drop_start_eq_some, List.dropWhile_append_of_pos unbraced]
    rfl
  have inside : (inner ++ '}' :: '}' :: after).takeWhile (fun char => !isBrace char) = inner := by
    rw [List.takeWhile_append_of_pos unbraced]
    simp [isBrace]
  simp only [tagAt, opened, closed, inside]

theorem tag_at_eq_some {text after : List Char} {token : Token} :
    tagAt text = some (token, after) ↔ ∃ source, text = source ++ after ∧ IsTag source token := by
  constructor
  · intro tag
    unfold tagAt at tag
    split at tag
    · simp at tag
    · rename_i behind opened
      split at tag
      · simp at tag
      · rename_i rest closed
        simp only [Option.map_eq_some_iff, Prod.mk.injEq] at tag
        obtain ⟨found, classified, rfl, rfl⟩ := tag
        rw [drop_start_eq_some] at opened closed
        refine ⟨enclose (behind.takeWhile fun char => !isBrace char), ?_, is_tag_iff.2
          ⟨_, rfl, ?_, classified⟩⟩
        · rw [enclose_append, opened]
          have whole := List.takeWhile_append_dropWhile (p := fun char => !isBrace char)
            (l := behind)
          rw [closed] at whole
          exact congrArg (fun rest => '{' :: '{' :: rest) whole.symm
        · intro char member
          simpa only [Bool.not_eq_true'] using List.mem_takeWhile_imp member
  · intro split
    obtain ⟨source, rfl, tag⟩ := split
    obtain ⟨inner, rfl, plain, classified⟩ := is_tag_iff.1 tag
    rw [tag_at_enclose plain, classified]
    rfl

/-- The text begins with a pair of doubled braces that no other brace stands between. -/
def Opens (text : List Char) : Prop := ∃ inner after, text = enclose inner ++ after ∧ Plain inner

theorem tag_at_of_not_opens {text : List Char} (closed : ¬ Opens text) : tagAt text = none := by
  rw [Option.eq_none_iff_forall_ne_some]
  intro found tag
  obtain ⟨token, after⟩ := found
  obtain ⟨source, rfl, isTag⟩ := tag_at_eq_some.1 tag
  obtain ⟨inner, rfl, plain, _⟩ := is_tag_iff.1 isTag
  exact closed ⟨inner, after, rfl, plain⟩

theorem not_opens_of_undoubled {text : List Char} (undoubled : Undoubled '{' text) :
    ¬ Opens text := by
  intro opens
  obtain ⟨inner, after, rfl, _⟩ := opens
  exact undoubled ⟨[], inner ++ '}' :: '}' :: after, by simp [enclose]⟩

theorem not_opens_of_unclosed {text : List Char} (unclosed : Undoubled '}' text) :
    ¬ Opens text := by
  intro opens
  obtain ⟨inner, after, rfl, _⟩ := opens
  exact unclosed ⟨'{' :: '{' :: inner, after, by simp [enclose]⟩

theorem undoubled_of_plain {inner : List Char} (plain : Plain inner) :
    Undoubled '}' (inner ++ ['}']) := by
  induction inner with
  | nil => exact undoubled_singleton _ _
  | cons char inner induction =>
      rw [List.cons_append, undoubled_cons]
      refine ⟨?_, induction fun other member => plain other (by simp [member])⟩
      intro doubled
      obtain ⟨rfl, _⟩ := doubled
      simpa [isBrace] using plain '}' (by simp)

/-- What opens before the first close is closed by it, and no brace stands between. -/
theorem plain_of_opens {part rest : List Char} (first : Undoubled '}' (part ++ ['}']))
    (opens : Opens (part ++ '}' :: '}' :: rest)) :
    ∃ inner, part = '{' :: '{' :: inner ∧ Plain inner := by
  obtain ⟨inner, after, same, plain⟩ := opens
  rw [enclose_append] at same
  match part, first, same with
  | [], _, same => simp at same
  | [_], _, same => simp at same
  | char :: next :: part, first, same =>
      simp only [List.cons_append, List.cons.injEq] at same
      obtain ⟨rfl, rfl, same⟩ := same
      have closer : Undoubled '}' (part ++ ['}']) :=
        undoubled_of_suffix ⟨['{', '{'], rfl⟩ first
      obtain ⟨rfl, _⟩ := double_place_unique same closer (undoubled_of_plain plain)
      exact ⟨part, rfl, plain⟩

/-- Of two pairs of doubled braces neither begins inside the other. -/
theorem apart_of_enclosed {inner inner' before after after' : List Char} (plain : Plain inner)
    (later : before ≠ [])
    (same : enclose inner ++ after = before ++ (enclose inner' ++ after')) :
    ∃ between, before = enclose inner ++ between := by
  have head : ∀ char, inner.head? = some char → char ≠ '{' := by
    intro char first same
    subst same
    simpa [isBrace] using plain '{' (List.mem_of_head? first)
  rw [enclose_append, enclose_append] at same
  match before, later, same with
  | [_], _, same =>
      simp only [List.singleton_append, List.cons.injEq] at same
      obtain ⟨_, same⟩ := same
      cases inner with
      | nil => simp at same
      | cons first inner =>
          simp only [List.cons_append, List.cons.injEq] at same
          exact absurd same.2.1 (head first rfl)
  | first :: second :: before, _, same =>
      simp only [List.cons_append, List.cons.injEq] at same
      obtain ⟨rfl, rfl, same⟩ := same
      rcases List.append_eq_append_iff.1 same with ⟨more, rfl, behind⟩ | ⟨more, rfl, behind⟩
      · match more, behind with
        | [], behind => simp at behind
        | [_], behind => simp at behind
        | close :: close' :: more, behind =>
            simp only [List.cons_append, List.cons.injEq] at behind
            obtain ⟨rfl, rfl, _⟩ := behind
            exact ⟨more, by simp [enclose]⟩
      · cases more with
        | nil => simp at behind
        | cons char more =>
            simp only [List.cons_append, List.cons.injEq] at behind
            have brace := plain char (by simp)
            rw [← behind.1] at brace
            simp [isBrace] at brace

end SchoolNotice.Template
