import Mathlib.Data.List.DropRight
import SchoolNotice.Text.Blank

/-!
What trimming leaves: a text that neither begins nor ends with a blank. Such a text with blanks
around it is trimmed to itself.
-/

namespace SchoolNotice.Text

def Trimmed (text : List Char) : Prop :=
  (∀ char, text.head? = some char → isBlank char = false) ∧
    ∀ char, text.getLast? = some char → isBlank char = false

theorem trim_end_eq (text : List Char) : trimEnd text = text.rdropWhile isBlank := rfl

theorem trim_end_eq_self {text : List Char}
    (ending : ∀ char, text.getLast? = some char → isBlank char = false) : trimEnd text = text := by
  rw [trim_end_eq, List.rdropWhile_eq_self_iff]
  intro filled
  simpa using ending _ (List.getLast?_eq_some_getLast filled)

theorem trim_start_eq_self {text : List Char}
    (beginning : ∀ char, text.head? = some char → isBlank char = false) :
    trimStart text = text := by
  cases text with
  | nil => rfl
  | cons char rest => simp [trimStart, beginning char rfl]

theorem trimmed_trim (text : List Char) : Trimmed (trim text) := by
  constructor
  · intro char head
    obtain ⟨dropped, whole⟩ : trim text <+: text.dropWhile isBlank :=
      List.rdropWhile_prefix isBlank _
    have first := List.head?_dropWhile_not isBlank text
    rw [← whole, List.head?_append, head] at first
    simpa using first
  · intro char last
    have filled : trim text ≠ [] := by
      intro empty
      simp [empty] at last
    have ending := List.rdropWhile_last_not isBlank (trimStart text) filled
    rw [List.getLast?_eq_some_getLast filled, Option.some.injEq] at last
    rw [← last]
    exact eq_false_of_ne_true ending

/-- The blanks around a trimmed text are dropped, and nothing else. -/
theorem trim_padded {before text after : List Char} (trimmed : Trimmed text)
    (blankBefore : ∀ char ∈ before, isBlank char = true)
    (blankAfter : ∀ char ∈ after, isBlank char = true) : trim (before ++ text ++ after) = text := by
  have start : trimStart (before ++ text ++ after) = trimStart (text ++ after) := by
    rw [List.append_assoc]
    exact List.dropWhile_append_of_pos blankBefore
  cases text with
  | nil =>
      have nothing : trimStart ([] ++ after) = [] := by
        simpa [trimStart] using blankAfter
      rw [trim, start, nothing]
      rfl
  | cons char rest =>
      have kept : trimStart (char :: rest ++ after) = char :: rest ++ after :=
        trim_start_eq_self (by simpa using trimmed.1)
      have ending : trimEnd (char :: rest ++ after) = trimEnd (char :: rest) := by
        unfold trimEnd
        rw [List.reverse_append, List.dropWhile_append_of_pos]
        simpa using blankAfter
      rw [trim, start, kept, ending, trim_end_eq_self trimmed.2]

theorem trimmed_of_word {text : List Char} (word : ∀ char ∈ text, isBlank char = false) :
    Trimmed text :=
  ⟨fun char head => word char (List.mem_of_head? head),
    fun char last => word char (List.mem_of_getLast? last)⟩

/-- Trimming takes blanks off the two ends. -/
theorem trim_split (text : List Char) :
    ∃ before after, text = before ++ trim text ++ after ∧
      (∀ char ∈ before, isBlank char = true) ∧ ∀ char ∈ after, isBlank char = true := by
  refine ⟨text.takeWhile isBlank, (trimStart text).rtakeWhile isBlank, ?_, ?_, ?_⟩
  · have ending : trim text ++ (trimStart text).rtakeWhile isBlank = trimStart text :=
      List.rdropWhile_append_rtakeWhile
    rw [List.append_assoc, ending]
    exact List.takeWhile_append_dropWhile.symm
  · intro char member
    exact List.mem_takeWhile_imp member
  · intro char member
    exact List.mem_rtakeWhile_imp member

/-- Further blanks at the two ends are trimmed off, too. -/
theorem trim_surrounded {before after : List Char} (text : List Char)
    (blankBefore : ∀ char ∈ before, isBlank char = true)
    (blankAfter : ∀ char ∈ after, isBlank char = true) :
    trim (before ++ text ++ after) = trim text := by
  obtain ⟨left, right, whole, blankLeft, blankRight⟩ := trim_split text
  have wider : before ++ text ++ after = (before ++ left) ++ trim text ++ (right ++ after) := by
    conv_lhs => rw [whole]
    simp only [List.append_assoc]
  rw [wider]
  apply trim_padded (trimmed_trim text)
  · intro char member
    cases List.mem_append.mp member with
    | inl outer => exact blankBefore char outer
    | inr inner => exact blankLeft char inner
  · intro char member
    cases List.mem_append.mp member with
    | inl inner => exact blankRight char inner
    | inr outer => exact blankAfter char outer

theorem trim_of_trimmed {text : List Char} (trimmed : Trimmed text) : trim text = text := by
  rw [trim, trim_start_eq_self trimmed.1, trim_end_eq_self trimmed.2]

instance (text : List Char) : Decidable (Trimmed text) :=
  decidable_of_iff (trim text = text) ⟨fun same => same ▸ trimmed_trim text, trim_of_trimmed⟩

end SchoolNotice.Text
