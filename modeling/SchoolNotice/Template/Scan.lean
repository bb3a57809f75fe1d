import SchoolNotice.Template.Token

/-!
Tags at a position of a template. `IsTag` says which texts are tags and what they mean; `scan` gives
the tokens that a look at every single position finds.
-/

namespace SchoolNotice.Template

open SchoolNotice.Text

/-- A text is a tag with a meaning: between doubled braces and without a brace inside, it is a
close, an opener with one word as its path, or anything else that begins like neither. -/
inductive IsTag : List Char → Token → Prop
  | blockClose {inner : List Char} (plain : ∀ char ∈ inner, isBrace char = false)
      (word : trim inner = ['/', 'i', 'f']) :
      IsTag (enclose inner) (.blockClose (enclose inner))
  | blockOpen {inner blanks path : List Char} (plain : ∀ char ∈ inner, isBrace char = false)
      (words : trim inner = ['#', 'i', 'f'] ++ blanks ++ path)
      (separated : blanks ≠ [] ∧ ∀ char ∈ blanks, isBlank char = true)
      (word : path ≠ [] ∧ ∀ char ∈ path, isBlank char = false) :
      IsTag (enclose inner) (.blockOpen (enclose inner) path)
  | placeholder {inner rest : List Char} {first : Char}
      (plain : ∀ char ∈ inner, isBrace char = false) (words : trim inner = first :: rest)
      (undirected : first ≠ '#' ∧ first ≠ '/') :
      IsTag (enclose inner) (.placeholder ⟨enclose inner, candidatesOf (first :: rest)⟩)

/-- The tag with which a text begins, and what follows it. -/
def tagAt (text : List Char) : Option (Token × List Char) :=
  match dropStart ['{', '{'] text with
  | none => none
  | some behind =>
      match dropStart ['}', '}'] (behind.dropWhile fun char => !isBrace char) with
      | none => none
      | some after =>
          (classify (behind.takeWhile fun char => !isBrace char)).map fun token => (token, after)

theorem length_of_tag_at {text after : List Char} {token : Token}
    (tag : tagAt text = some (token, after)) : after.length < text.length := by
  unfold tagAt at tag
  split at tag
  · simp at tag
  · rename_i behind opened
    split at tag
    · simp at tag
    · rename_i rest closed
      simp only [Option.map_eq_some_iff, Prod.mk.injEq] at tag
      obtain ⟨_, _, _, rfl⟩ := tag
      have whole := drop_start_eq opened
      have inside := congrArg List.length (drop_start_eq closed)
      have shorter : (behind.dropWhile fun char => !isBrace char).length ≤ behind.length :=
        (List.dropWhile_sublist _).length_le
      simp only [List.length_append, List.length_cons, List.length_nil] at inside
      rw [whole]
      simp only [List.length_append, List.length_cons, List.length_nil]
      omega

/-- The tokens of a template, found by trying one position after another. -/
def scan (input : List Char) : List Token :=
  match input with
  | [] => []
  | char :: rest =>
      match _ : tagAt (char :: rest) with
      | some (token, after) => token :: scan after
      | none => consText [char] (scan rest)
termination_by input.length
decreasing_by
  · exact length_of_tag_at (by assumption)
  · exact Nat.lt_succ_self rest.length

end SchoolNotice.Template
