import SchoolNotice.Template.Meaning
import Mathlib.Data.List.Infix

/-!
# Filling a template

The window that is carried from leaf to leaf holds the last characters of all the source before, so
what a leaf writes depends on that source and on its own candidates alone.
-/

namespace SchoolNotice.Text

variable {count : Nat} {text window : List Char}

theorem eq_tail_iff :
    window = tail count text ↔ window <:+ text ∧ window.length = min count text.length := by
  constructor
  · intro same
    subst same
    refine ⟨List.drop_suffix _ _, ?_⟩
    rw [tail, List.length_drop]
    omega
  · intro parts
    obtain ⟨suffix, length⟩ := parts
    have dropped := List.suffix_iff_eq_drop.1 suffix
    rw [dropped, tail, length]
    congr 1
    omega

/-- A tail is as good as the whole text for the tail of a longer text. -/
theorem tail_append_tail (count : Nat) (front back : List Char) :
    tail count (tail count front ++ back) = tail count (front ++ back) := by
  obtain ⟨suffix, length⟩ := eq_tail_iff.1 (rfl : tail count front = tail count front)
  obtain ⟨whole, size⟩ := eq_tail_iff.1
    (rfl : tail count (tail count front ++ back) = tail count (tail count front ++ back))
  rw [eq_tail_iff]
  constructor
  · obtain ⟨start, same⟩ := suffix
    refine whole.trans ⟨start, ?_⟩
    rw [← List.append_assoc, same]
  · rw [size, List.length_append, List.length_append, length]
    omega

end SchoolNotice.Text

namespace SchoolNotice.Template

open SchoolNotice.Text

theorem occurs_in_iff {part text : List Char} : occursIn part text = true ↔ part <:+: text := by
  induction text with
  | nil => rw [occursIn, List.isEmpty_iff, List.infix_nil]
  | cons char rest induction =>
      rw [occursIn, Bool.or_eq_true, List.isPrefixOf_iff_prefix, induction, List.infix_cons_iff]

section Blocks

variable {context : Context} {nodes : List Node} {leaves : List Leaf}

theorem is_kept_iff {path : List Char} : isKept context path = true ↔ Holds context path := by
  unfold isKept Holds
  exact Option.any_eq_true _ _

end Blocks

section Leaves

variable {context : Context} {before : List Leaf}

end Leaves

/-! ## The pieces of a filled template -/

section Pieces

variable (context : Context) (start : List Char)

theorem write_tail (leaf : Leaf) :
    leaf.write context (tail lookBack start) = leaf.write context start := by
  have kept := tail_append_tail lookBack start []
  rw [List.append_nil, List.append_nil] at kept
  cases leaf with
  | text source => rfl
  | placeholder slot => rw [Leaf.write, Leaf.write, kept]

theorem pieces_tail (leaves : List Leaf) :
    pieces context (tail lookBack start) leaves = pieces context start leaves := by
  cases leaves with
  | nil => rfl
  | cons leaf rest => rw [pieces, pieces, write_tail, tail_append_tail]

/-- Nothing is lost by the short window: the leaves behind see the whole source before them. -/
theorem pieces_cons (leaf : Leaf) (rest : List Leaf) :
    pieces context start (leaf :: rest) =
      leaf.write context start :: pieces context (start ++ leaf.source) rest := by
  rw [pieces, pieces_tail]

theorem pieces_append (front back : List Leaf) :
    pieces context start (front ++ back) =
      pieces context start front ++
        pieces context (start ++ front.flatMap Leaf.source) back := by
  induction front generalizing start with
  | nil => simp [pieces]
  | cons leaf rest induction =>
      rw [List.cons_append, pieces_cons, pieces_cons, induction, List.flatMap_cons,
        List.append_assoc, List.cons_append]

theorem length_pieces (leaves : List Leaf) :
    (pieces context start leaves).length = leaves.length := by
  induction leaves generalizing start with
  | nil => rfl
  | cons leaf rest induction => rw [pieces_cons, List.length_cons, List.length_cons, induction]

theorem pieces_split (before after : List Leaf) (leaf : Leaf) :
    pieces context [] (before ++ leaf :: after) =
      pieces context [] before ++ leaf.write context (before.flatMap Leaf.source) ::
        pieces context (before.flatMap Leaf.source ++ leaf.source) after := by
  rw [pieces_append, pieces_cons, List.nil_append]

theorem piece_at (before after : List Leaf) (leaf : Leaf) :
    (pieces context [] (before ++ leaf :: after))[before.length]? =
      some (leaf.write context (before.flatMap Leaf.source)) := by
  rw [pieces_split]
  rw [List.getElem?_append_right (length_pieces context [] before).le, length_pieces,
    Nat.sub_self]
  rfl

end Pieces

end SchoolNotice.Template
