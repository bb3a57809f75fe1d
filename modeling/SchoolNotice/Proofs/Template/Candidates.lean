import SchoolNotice.Proofs.Template.Lexing
import SchoolNotice.Template.Printer

/-!
# Candidates as they are written

What a slot's text is read as: its candidates are those of the pieces that bars join, and blanks around
a piece count for nothing. A literal stands between its quotes, so blanks inside them stay.
-/

namespace SchoolNotice.Template

open SchoolNotice.Text

section Pieces

variable {blank : Char}

theorem blank_apart (isBlank_blank : isBlank blank = true) : blank ≠ '|' := by
  rintro rfl
  revert isBlank_blank
  decide

theorem trim_after_blank (isBlank_blank : isBlank blank = true) (text : List Char) :
    trim (blank :: text) = trim text := by
  have wider : trim ([blank] ++ text ++ []) = trim text :=
    trim_surrounded text (by simpa using isBlank_blank) (List.forall_mem_nil _)
  rwa [List.append_nil] at wider

theorem trim_before_blank (isBlank_blank : isBlank blank = true) (text : List Char) :
    trim (text ++ [blank]) = trim text := by
  have wider : trim ([] ++ text ++ [blank]) = trim text :=
    trim_surrounded text (List.forall_mem_nil _) (by simpa using isBlank_blank)
  rwa [List.nil_append] at wider

theorem candidates_after_blank (isBlank_blank : isBlank blank = true) (text : List Char) :
    candidatesOf (blank :: text) = candidatesOf text := by
  have single : ¬ (blank = '|' ∧ text.head? = some '|') := by
    intro both
    exact blank_apart isBlank_blank both.1
  rw [candidatesOf, candidatesOf, split_double_cons single]
  cases splitDouble '|' text with
  | nil => rfl
  | cons piece pieces =>
      rw [List.modifyHead_cons, List.map_cons, List.map_cons, trim_after_blank isBlank_blank]

/-- A blank behind the text counts for nothing, whether the text ends there or a bar comes next. -/
theorem candidates_around_blank (isBlank_blank : isBlank blank = true) (text : List Char) :
    candidatesOf (text ++ [blank]) = candidatesOf text ∧
      ∀ rest, candidatesOf (text ++ blank :: '|' :: '|' :: rest) =
        candidatesOf text ++ candidatesOf rest := by
  have apart := blank_apart isBlank_blank
  obtain ⟨front, last, pieces, behind⟩ := split_double_append apart text
  have read : Candidate.ofText (trim (last ++ [blank])) = Candidate.ofText (trim last) :=
    congrArg Candidate.ofText (trim_before_blank isBlank_blank last)
  have alone : splitDouble '|' [blank] = [[blank]] := rfl
  have bars : ∀ rest, splitDouble '|' (blank :: '|' :: '|' :: rest) =
      [blank] :: splitDouble '|' rest := by
    intro rest
    have single : ¬ (blank = '|' ∧ ('|' :: '|' :: rest).head? = some '|') := fun both => apart both.1
    rw [split_double_cons single, splitDouble, if_pos ⟨rfl, rfl⟩, List.modifyHead_cons]
  simp only [candidatesOf, behind, pieces, alone, bars, List.modifyHead_cons, List.map_append,
    List.map_cons, List.map_nil, read, List.append_assoc, List.cons_append, List.nil_append,
    true_and, implies_true]

theorem candidates_of_trim (text : List Char) : candidatesOf (trim text) = candidatesOf text := by
  have front : ∀ blanks rest : List Char, (∀ char ∈ blanks, isBlank char = true) →
      candidatesOf (blanks ++ rest) = candidatesOf rest := by
    intro blanks rest blank
    induction blanks with
    | nil => rfl
    | cons char blanks induction =>
        obtain ⟨first, others⟩ := List.forall_mem_cons.mp blank
        rw [List.cons_append, candidates_after_blank first, induction others]
  have back : ∀ blanks rest : List Char, (∀ char ∈ blanks, isBlank char = true) →
      candidatesOf (rest ++ blanks) = candidatesOf rest := by
    intro blanks rest blank
    induction blanks generalizing rest with
    | nil => rw [List.append_nil]
    | cons char blanks induction =>
        obtain ⟨first, others⟩ := List.forall_mem_cons.mp blank
        rw [← List.singleton_append, ← List.append_assoc, induction _ others,
          (candidates_around_blank first rest).1]
  obtain ⟨before, after, whole, blankBefore, blankAfter⟩ := trim_split text
  conv_rhs => rw [whole]
  rw [List.append_assoc, front before _ blankBefore, back after _ blankAfter]

/-- Joined by bars, pieces are read one by one. -/
theorem candidates_of_join {pieces : List (List Char)} (filled : pieces ≠ []) :
    candidatesOf (joinBars pieces) = pieces.flatMap candidatesOf := by
  fun_induction joinBars pieces with
  | case1 => exact absurd rfl filled
  | case2 piece => rw [List.flatMap_singleton]
  | case3 piece rest other induction =>
      have gap : isBlank ' ' = true := rfl
      rw [(candidates_around_blank gap piece).2, candidates_after_blank gap, induction other,
        List.flatMap_cons]

end Pieces

section Slots

variable {inner : List Char}

/-- The first character that is no blank begins neither a directive nor a close. -/
def Undirected (inner : List Char) : Prop :=
  ∃ blanks first rest, inner = blanks ++ first :: rest ∧
    (∀ char ∈ blanks, isBlank char = true) ∧ isBlank first = false ∧ first ≠ '#' ∧ first ≠ '/'

theorem undirected_append (undirected : Undirected inner) (more : List Char) :
    Undirected (inner ++ more) := by
  obtain ⟨blanks, first, rest, rfl, blank, others⟩ := undirected
  exact ⟨blanks, first, rest ++ more, by rw [List.append_assoc, List.cons_append], blank, others⟩

theorem trim_of_undirected (undirected : Undirected inner) :
    ∃ first rest, trim inner = first :: rest ∧ first ≠ '#' ∧ first ≠ '/' := by
  obtain ⟨blanks, first, rest, whole, blank, word, others⟩ := undirected
  have started : trimStart inner = first :: rest := by
    rw [whole, trimStart, List.dropWhile_append_of_pos blank]
    exact trim_start_eq_self (by simpa using word)
  have start : trim inner <+: first :: rest := by
    rw [trim, started]
    exact List.rdropWhile_prefix isBlank (first :: rest)
  have filled : trim inner ≠ [] := by
    rw [trim, started, trim_end_eq]
    intro empty
    have blankFirst := List.rdropWhile_eq_nil_iff.mp empty first List.mem_cons_self
    rw [word] at blankFirst
    cases blankFirst
  obtain ⟨char, more, parts⟩ := List.exists_cons_of_ne_nil filled
  rw [parts] at start
  obtain ⟨rfl, -⟩ := List.cons_prefix_cons.mp start
  exact ⟨char, more, parts, others⟩

/-- A text between doubled braces is one slot exactly if no brace and no directive is in it, and then
its candidates are read from the whole text. -/
theorem slot_alone_iff {slot : Placeholder} :
    tokens (enclose inner) = [.placeholder slot] ↔
      Plain inner ∧ Undirected inner ∧ slot = ⟨enclose inner, candidatesOf inner⟩ := by
  rw [alone_iff]
  constructor
  · intro tag
    generalize same : enclose inner = source at tag
    cases tag with
    | @placeholder other rest first plain words undirected =>
        obtain rfl := enclose_injective same
        obtain ⟨before, after, whole, blankBefore, -⟩ := trim_split inner
        have word : isBlank first = false := (trimmed_trim inner).1 first (by rw [words]; rfl)
        rw [words, List.append_assoc, List.cons_append] at whole
        refine ⟨plain, ⟨before, first, rest ++ after, whole, blankBefore, word, undirected⟩, ?_⟩
        rw [← words, candidates_of_trim]
  · intro parts
    obtain ⟨plain, undirected, rfl⟩ := parts
    obtain ⟨first, rest, words, others⟩ := trim_of_undirected undirected
    have tag := IsTag.placeholder plain words others
    rwa [← words, candidates_of_trim] at tag

end Slots

section Written

variable {quote : Char} {text inner : List Char} {candidate : Candidate}

def IsQuote (char : Char) : Prop := char = '\x27' ∨ char = '\x22'

def Quoted (text : List Char) : Prop := ∃ quote inner, IsQuote quote ∧ text = quote :: (inner ++ [quote])

theorem unquote_with_eq_some :
    unquoteWith quote text = some inner ↔ text = quote :: (inner ++ [quote]) := by
  cases text with
  | nil => simp [unquoteWith]
  | cons first rest =>
      rw [unquoteWith, Option.ite_none_right_eq_some, List.cons.injEq]
      constructor
      · intro found
        obtain ⟨⟨same, last⟩, dropped⟩ := found
        have whole := List.dropLast_append_getLast? quote last
        rw [Option.some.inj dropped] at whole
        exact ⟨same, whole.symm⟩
      · intro parts
        obtain ⟨same, rfl⟩ := parts
        exact ⟨⟨same, List.getLast?_concat⟩, congrArg some List.dropLast_concat⟩

theorem unquote_eq_some :
    unquote text = some inner ↔ ∃ quote, IsQuote quote ∧ text = quote :: (inner ++ [quote]) := by
  unfold unquote
  cases single : unquoteWith '\x27' text with
  | some other =>
      have whole := unquote_with_eq_some.mp single
      constructor
      · intro same
        rw [← Option.some.inj same]
        exact ⟨_, .inl rfl, whole⟩
      · intro quoted
        obtain ⟨quote, kind, parts⟩ := quoted
        rw [whole] at parts
        obtain ⟨rfl, rest⟩ := List.cons.inj parts
        exact congrArg some (List.append_inj_left' rest rfl)
  | none =>
      constructor
      · intro double
        exact ⟨_, .inr rfl, unquote_with_eq_some.mp double⟩
      · intro quoted
        obtain ⟨quote, kind, parts⟩ := quoted
        rcases kind with rfl | rfl
        · rw [unquote_with_eq_some.mpr parts] at single
          cases single
        · exact unquote_with_eq_some.mpr parts

theorem of_text_quoted (kind : IsQuote quote) (text : List Char) :
    Candidate.ofText (quote :: (text ++ [quote])) = .literal text := by
  rw [Candidate.ofText, unquote_eq_some.mpr ⟨quote, kind, rfl⟩]

theorem unquote_eq_none : unquote text = none ↔ ¬ Quoted text := by
  rw [Option.eq_none_iff_forall_ne_some]
  constructor
  · intro unquoted quoted
    obtain ⟨quote, inner, kind, whole⟩ := quoted
    exact unquoted inner (unquote_eq_some.mpr ⟨quote, kind, whole⟩)
  · intro bare inner found
    obtain ⟨quote, kind, whole⟩ := unquote_eq_some.mp found
    exact bare ⟨quote, inner, kind, whole⟩

theorem of_text_bare (bare : ¬ Quoted text) : Candidate.ofText text = .path text := by
  rw [Candidate.ofText, unquote_eq_none.mpr bare]

/-- A candidate that can stand in a tag: without braces and doubled bars, and a path also without blanks
around it and without quotes that would make it a literal. -/
inductive Candidate.Writable : Candidate → Prop
  | path {name : List Char} (plain : Plain name) (single : Undoubled '|' name) (filled : name ≠ [])
      (trimmed : Trimmed name) (bare : ¬ Quoted name) : Writable (.path name)
  | literal {text : List Char} (plain : Plain text) (single : Undoubled '|' text) :
      Writable (.literal text)

theorem undoubled_quoted {mark : Char} (single : Undoubled mark text) (apart : quote ≠ mark) :
    Undoubled mark (quote :: (text ++ [quote])) := by
  rw [undoubled_cons]
  constructor
  · intro both
    exact apart both.1
  · intro doubled
    rcases List.infix_concat_iff.mp doubled with atEnd | inside
    · obtain ⟨front, whole⟩ := atEnd
      have last := congrArg List.getLast? whole
      rw [List.getLast?_concat, List.getLast?_append] at last
      exact apart (Option.some.inj last).symm
    · exact single inside

/-- What is written for a candidate is read as this candidate and no other. -/
theorem candidates_of_write (kind : IsQuote quote) (writable : candidate.Writable) :
    candidatesOf (candidate.write quote) = [candidate] := by
  cases writable with
  | path plain single filled trimmed bare =>
      rw [Candidate.write, candidatesOf, split_double_of_undoubled single, List.map_singleton,
        trim_of_trimmed trimmed, of_text_bare bare]
  | @literal text plain single =>
      have apart : quote ≠ '|' := by rcases kind with rfl | rfl <;> decide
      have visible : isBlank quote = false := by rcases kind with rfl | rfl <;> decide
      have trimmed : Trimmed (quote :: (text ++ [quote])) := by
        constructor
        · intro char head
          rwa [← Option.some.inj head]
        · intro char last
          rw [← List.cons_append, List.getLast?_concat] at last
          rwa [← Option.some.inj last]
      rw [Candidate.write, candidatesOf, split_double_of_undoubled (undoubled_quoted single apart),
        List.map_singleton, trim_of_trimmed trimmed, of_text_quoted kind]

theorem plain_write (kind : IsQuote quote) (writable : candidate.Writable) :
    Plain (candidate.write quote) := by
  cases writable with
  | path plain => exact plain
  | literal plain =>
      have unbraced : isBrace quote = false := by rcases kind with rfl | rfl <;> decide
      intro char member
      rcases List.mem_cons.mp member with rfl | behind
      · exact unbraced
      · rcases List.mem_append.mp behind with inside | final
        · exact plain char inside
        · rwa [List.mem_singleton.mp final]

theorem undirected_write (kind : IsQuote quote) (writable : candidate.Writable)
    (undirected : ∀ name, candidate = .path name → name.head? ≠ some '#' ∧ name.head? ≠ some '/') :
    Undirected (candidate.write quote) := by
  cases writable with
  | @path name plain single filled trimmed bare =>
      obtain ⟨first, rest, rfl⟩ := List.exists_cons_of_ne_nil filled
      obtain ⟨noHash, noSlash⟩ := undirected (first :: rest) rfl
      refine ⟨[], first, rest, rfl, List.forall_mem_nil _, trimmed.1 first rfl, ?_, ?_⟩
      · intro same
        exact noHash (congrArg some same)
      · intro same
        exact noSlash (congrArg some same)
  | @literal text plain single =>
      refine ⟨[], quote, text ++ [quote], rfl, List.forall_mem_nil _, ?_⟩
      rcases kind with rfl | rfl <;> decide

theorem plain_join {pieces : List (List Char)} (plain : ∀ piece ∈ pieces, Plain piece) :
    Plain (joinBars pieces) := by
  fun_induction joinBars pieces with
  | case1 => exact List.forall_mem_nil _
  | case2 piece => exact plain piece (List.mem_singleton_self piece)
  | case3 piece rest other induction =>
      obtain ⟨first, others⟩ := List.forall_mem_cons.mp plain
      intro char member
      rcases List.mem_append.mp member with inside | behind
      · exact first char inside
      · simp only [List.mem_cons] at behind
        rcases behind with rfl | rfl | rfl | rfl | later
        · rfl
        · rfl
        · rfl
        · rfl
        · exact induction others char later

theorem join_bars_starts (piece : List Char) (rest : List (List Char)) :
    piece <+: joinBars (piece :: rest) := by
  cases rest with
  | nil => exact List.prefix_rfl
  | cons next others => exact List.prefix_append _ _

def slotText (written : List (Char × Candidate)) : List Char :=
  joinBars (written.map fun part => part.2.write part.1)

/-- A slot written from its candidates, each literal in quotes of either kind, is read as one slot with
these candidates. -/
theorem written_slot_read {written : List (Char × Candidate)} (filled : written ≠ [])
    (quotes : ∀ part ∈ written, IsQuote part.1) (writable : ∀ part ∈ written, part.2.Writable)
    (undirected : ∀ name, (written.map Prod.snd).head? = some (.path name) →
      name.head? ≠ some '#' ∧ name.head? ≠ some '/') :
    tokens (enclose (slotText written)) =
      [.placeholder ⟨enclose (slotText written), written.map Prod.snd⟩] := by
  have pieces : (written.map fun part => part.2.write part.1) ≠ [] := by simpa using filled
  have plain : ∀ piece ∈ written.map (fun part => part.2.write part.1), Plain piece := by
    intro piece member
    obtain ⟨part, inside, rfl⟩ := List.mem_map.mp member
    exact plain_write (quotes part inside) (writable part inside)
  have read : candidatesOf (slotText written) = written.map Prod.snd := by
    rw [slotText, candidates_of_join pieces, List.flatMap_map, List.map_eq_flatMap]
    apply List.flatMap_congr
    intro part inside
    exact candidates_of_write (quotes part inside) (writable part inside)
  apply slot_alone_iff.mpr
  refine ⟨plain_join plain, ?_, by rw [read]⟩
  obtain ⟨first, rest, rfl⟩ := List.exists_cons_of_ne_nil filled
  have start := undirected_write (quotes first List.mem_cons_self)
    (writable first List.mem_cons_self) fun name same => undirected name (congrArg some same)
  obtain ⟨more, whole⟩ := join_bars_starts (first.2.write first.1)
    (rest.map fun part => part.2.write part.1)
  rw [slotText, List.map_cons, ← whole]
  exact undirected_append start more

/-- A path that begins with a bar, a literal with quotes, bars and blanks at its ends, an empty one, and a
lone quote, which is a path. -/
def mixedCandidates : List (Char × Candidate) :=
  [('\x22', .path "|school name".toList), ('\x27', .literal " it's \x22open\x22 | ".toList),
    ('\x22', .literal []), ('\x27', .path ['\x22'])]

theorem written_slot_read_mixed :
    slotText mixedCandidates =
        "|school name || ' it's \x22open\x22 | ' || \x22\x22 || \x22".toList ∧
      tokens (enclose (slotText mixedCandidates)) =
        [.placeholder ⟨enclose (slotText mixedCandidates), mixedCandidates.map Prod.snd⟩] := by
  have bare : ∀ name, unquote name = none → ¬ Quoted name := fun name => unquote_eq_none.mp
  have barred : Candidate.Writable (.path "|school name".toList) := by
    exact .path (by decide) (by decide) (by decide) (by decide) (bare _ (by decide))
  have loneQuote : Candidate.Writable (.path ['\x22']) := by
    exact .path (by decide) (by decide) (by decide) (by decide) (bare _ (by decide))
  refine ⟨by decide, ?_⟩
  apply written_slot_read
  · exact List.cons_ne_nil _ _
  · simp [mixedCandidates, IsQuote]
  · simp only [mixedCandidates, List.forall_mem_cons]
    refine ⟨barred, .literal ?_ ?_, .literal ?_ ?_, loneQuote, List.forall_mem_nil _⟩ <;> decide
  · intro name first
    rw [← Candidate.path.inj (Option.some.inj first)]
    decide

end Written

end SchoolNotice.Template
