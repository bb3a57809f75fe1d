import SchoolNotice.Proofs.Template.Blocks
import SchoolNotice.Proofs.Template.Filling
import SchoolNotice.Template.Printer

/-!
# Templates that say what they are

Without a slot and without an opener that has a close behind it nothing in a template can change. Each
token stands alone and is text, so filling the template writes the sources of its tokens, and that is
the template.
-/

namespace SchoolNotice.Template

section Tokens

variable {tokens : List Token}

def Encloses (first second : Token) : Prop :=
  ∃ source path close, first = .blockOpen source path ∧ second = .blockClose close

theorem paired_singles (apart : tokens.Pairwise fun first second => ¬ Encloses first second) :
    Paired tokens (tokens.map Group.single) := by
  induction tokens with
  | nil => exact .nil
  | cons token rest induction =>
      have behind := List.pairwise_cons.1 apart
      apply Paired.single
      · intro source path opener close member
        exact behind.1 _ member ⟨source, path, close, opener, rfl⟩
      · exact induction behind.2

theorem nodes_singles (apart : tokens.Pairwise fun first second => ¬ Encloses first second) :
    Node.ofTokens tokens = (tokens.map Leaf.ofToken).map Node.leaf := by
  obtain ⟨groups, paired, nodes⟩ := nodes_paired tokens
  have same := paired_unique paired (paired_singles apart)
  rw [nodes, ← same, List.map_map, List.map_map]
  rfl

theorem text_of_token {token : Token} (noSlot : ∀ slot, token ≠ .placeholder slot) :
    Leaf.ofToken token = .text token.source := by
  cases token with
  | placeholder slot => exact absurd rfl (noSlot slot)
  | _ => rfl

theorem leaves_of_slotless (noSlot : ∀ slot, Token.placeholder slot ∉ tokens) :
    tokens.map Leaf.ofToken = (tokens.map Token.source).map Leaf.text := by
  rw [List.map_map]
  apply List.map_congr_left
  intro token member
  apply text_of_token
  rintro slot rfl
  exact noSlot slot member

end Tokens

section Leaves

variable (context : Context)

theorem kept_of_leaves (leaves : List Leaf) :
    keptLeaves context (leaves.map Node.leaf) = leaves := by
  induction leaves with
  | nil => rfl
  | cons leaf rest induction => rw [List.map_cons, keptLeaves, induction]

theorem pieces_of_texts (start : List Char) (sources : List (List Char)) :
    pieces context start (sources.map Leaf.text) = sources := by
  induction sources generalizing start with
  | nil => rfl
  | cons source rest induction =>
      rw [List.map_cons, pieces_cons, induction]
      rfl

end Leaves

/-- A template without slots, in which no opener has a close behind it, is filled with itself. -/
theorem render_literal {template : List Char}
    (noSlot : ∀ slot, Token.placeholder slot ∉ tokens template)
    (apart : (tokens template).Pairwise fun first second => ¬ Encloses first second)
    (context : Context) : render context template = template := by
  have leaves := leaves_of_slotless noSlot
  calc
    render context template
        = interpolate context ((tokens template).map Leaf.ofToken) := by
          rw [render, Node.ofText, nodes_singles apart, kept_of_leaves]
    _ = ((tokens template).map Token.source).flatten := by
          rw [interpolate, leaves, pieces_of_texts]
    _ = (scan template).flatMap Token.source := by rw [tokens_scan, List.flatMap_def]
    _ = template := scan_sources template

/-- A stray close, an empty tag, a directive that there is not, an opener without a path, an opener
without a close, and braces that never close. -/
def brokenTags : List Char :=
  blockClose ++ enclose [] ++ enclose "#each x".toList ++ enclose "#if".toList ++ ['{'] ++
    blockOpener "open".toList ++ "\x7b \x7b\x7bschool".toList

theorem render_literal_broken_tags :
    render ⟨[("open", .bool true), ("school", .string "Hill School")]⟩ brokenTags = brokenTags := by
  have found : tokens brokenTags =
      [.blockClose blockClose,
        .text (enclose [] ++ enclose "#each x".toList ++ enclose "#if".toList ++ ['{']),
        .blockOpen (blockOpener "open".toList) "open".toList, .text "\x7b \x7b\x7bschool".toList] := by
    decide +kernel
  apply render_literal
  · intro slot member
    rw [found] at member
    simp at member
  · rw [found]
    simp [Encloses]

end SchoolNotice.Template
