import SchoolNotice.Proofs.Json.Texts
import SchoolNotice.Proofs.Template.Printed

/-!
# No tag in what is written

Two opening braces can meet in a filled template inside a text of the template, inside a value, or where
two values meet. If text stands between any two slots, whichever blocks are removed, and no text holds a
brace, then only the values are left, and these are printed from the texts in the data.
-/

namespace SchoolNotice.Template

open SchoolNotice.Text

/-! ## Literals -/

section Literals

variable {text piece : List Char} {char : Char}

theorem mem_of_mem_piece {mark : Char} (inside : piece ∈ splitDouble mark text)
    (member : char ∈ piece) : char ∈ text := by
  fun_induction splitDouble mark text generalizing piece with
  | case1 => rwa [List.mem_singleton.mp inside] at member
  | case2 => rwa [List.mem_singleton.mp inside] at member
  | case3 first next rest both induction =>
      rcases List.mem_cons.mp inside with rfl | behind
      · cases member
      · exact List.mem_cons_of_mem _ (List.mem_cons_of_mem _ (induction behind member))
  | case4 first next rest apart nothing induction =>
      exact absurd nothing (split_double_ne_nil mark _)
  | case5 first next rest apart opening pieces found induction =>
      rcases List.mem_cons.mp inside with rfl | behind
      · rcases List.mem_cons.mp member with rfl | later
        · exact List.mem_cons_self
        · exact List.mem_cons_of_mem _ (induction (by rw [found]; exact List.mem_cons_self) later)
      · exact List.mem_cons_of_mem _
          (induction (by rw [found]; exact List.mem_cons_of_mem _ behind) member)

theorem mem_of_mem_trim (member : char ∈ trim text) : char ∈ text := by
  obtain ⟨before, after, whole, -, -⟩ := trim_split text
  rw [whole]
  exact List.mem_append_left after (List.mem_append_right before member)

/-- A literal of a slot is a part of the slot's tag, and no brace stands in that. -/
theorem plain_of_literal {source literal : List Char} {slot : Placeholder}
    (tag : IsTag source (.placeholder slot)) (member : Candidate.literal literal ∈ slot.candidates) :
    Plain literal := by
  cases tag with
  | @placeholder inner rest first plain words undirected =>
      obtain ⟨piece, inside, read⟩ := List.mem_map.mp member
      rw [← words] at inside
      rw [Candidate.ofText] at read
      split at read
      next unquoted =>
        obtain ⟨quote, -, quoted⟩ := unquote_eq_some.mp unquoted
        obtain rfl := Candidate.literal.inj read
        intro char part
        have within : char ∈ trim piece := by
          rw [quoted]
          exact List.mem_cons_of_mem quote (List.mem_append_left [quote] part)
        exact plain char (mem_of_mem_trim (mem_of_mem_piece inside (mem_of_mem_trim within)))
      next => cases read

end Literals

/-! ## Values -/

section Values

variable {context : Context} {filling : Filling} {slot : Placeholder}

def SingleBraced (context : Context) : Prop := Json.AllTexts Json.SingleBraced context.toJson

theorem single_braced_of_json {value : Json} (single : Json.AllTexts Json.SingleBraced value)
    (filled : Filling.ofJson? value = some filling) : Undoubled '{' filling.text := by
  cases value with
  | null => cases filled
  | string text =>
      rw [Filling.ofJson?, Option.ite_none_left_eq_some] at filled
      rw [← Option.some.inj filled.2]
      exact single
  | _ =>
      rw [← Option.some.inj filled]
      exact (Json.undoubled_compact _).mpr single

theorem single_braced_of_slot (tag : IsTag slot.source (.placeholder slot))
    (single : SingleBraced context) (filled : slot.fill? context = some filling) :
    Undoubled '{' filling.text := by
  obtain ⟨candidate, member, gives⟩ := List.exists_of_findSome?_eq_some filled
  cases candidate with
  | literal text =>
      have plain := plain_of_literal tag member
      rw [Candidate.fill?, Option.ite_none_left_eq_some] at gives
      rw [← Option.some.inj gives.2]
      apply undoubled_of_not_mem
      intro brace
      cases plain _ brace
  | path name =>
      obtain ⟨value, resolved, read⟩ := Option.bind_eq_some_iff.mp gives
      exact single_braced_of_json (Json.all_texts_resolve single resolved) read

theorem single_braced_image_tag {address : List Char} (single : Undoubled '{' address) :
    Undoubled '{' (imageTag address) := by
  have front : '{' ∉ "<img src=\x22".toList := by decide
  have closing : '{' ∉ (imageTag []).drop 11 := by decide
  have whole : imageTag address =
      "<img src=\x22".toList ++ (address ++ '\x22' :: (imageTag []).drop 11) := by
    unfold imageTag
    rw [List.append_assoc]
    rfl
  rw [whole, undoubled_append_of_not_mem front, undoubled_around (by decide)]
  exact ⟨single, undoubled_of_not_mem closing⟩

theorem single_braced_write (single : Undoubled '{' filling.text) (window : List Char) :
    Undoubled '{' (filling.write window) := by
  cases filling with
  | other text => exact single
  | string text =>
      rw [Filling.write]
      unfold embed?
      split
      · exact single_braced_image_tag single
      · exact single

theorem single_braced_slot (tag : IsTag slot.source (.placeholder slot))
    (single : SingleBraced context) (before : List Char) :
    Undoubled '{' ((Leaf.placeholder slot).write context before) := by
  rw [Leaf.write]
  split
  next filling filled => exact single_braced_write (single_braced_of_slot tag single filled) _
  next => exact undoubled_of_not_mem List.not_mem_nil

end Values

/-! ## Texts between slots -/

/-- Text stands between any two slots; if `ready` does not hold, then before the first one, too. -/
def Leaf.spaced (ready : Bool) : List Leaf → Bool
  | [] => true
  | .text _ :: rest => spaced true rest
  | .placeholder _ :: rest => ready && spaced false rest

/-- Text stands between any two slots, both in and around the blocks, and a block begins with text. -/
def Node.spaced (ready : Bool) : List Node → Bool
  | [] => true
  | .leaf (.text _) :: rest => spaced true rest
  | .leaf (.placeholder _) :: rest => ready && spaced false rest
  | .block _ body :: rest => Leaf.spaced false body && spaced false rest

section Spacing

variable {context : Context} {ready : Bool} {leaves others : List Leaf} {nodes : List Node}

theorem spaced_of_unready (spaced : Leaf.spaced false leaves = true) :
    Leaf.spaced ready leaves = true := by
  cases leaves with
  | nil => rfl
  | cons leaf rest =>
      cases leaf with
      | text source => exact spaced
      | placeholder slot => cases spaced

theorem spaced_append (front : Leaf.spaced ready leaves = true)
    (back : Leaf.spaced false others = true) : Leaf.spaced ready (leaves ++ others) = true := by
  induction leaves generalizing ready with
  | nil => exact spaced_of_unready back
  | cons leaf rest induction =>
      cases leaf with
      | text source => exact induction front
      | placeholder slot =>
          obtain ⟨here, behind⟩ := Bool.and_eq_true_iff.mp front
          exact Bool.and_eq_true_iff.mpr ⟨here, induction behind⟩

/-- Whichever blocks are removed, the text between the slots that stay is there. -/
theorem spaced_kept (spaced : Node.spaced ready nodes = true) (context : Context) :
    Leaf.spaced ready (keptLeaves context nodes) = true := by
  induction nodes generalizing ready with
  | nil => rfl
  | cons node rest induction =>
      cases node with
      | leaf part =>
          cases part with
          | text source => exact induction spaced
          | placeholder slot =>
              obtain ⟨here, behind⟩ := Bool.and_eq_true_iff.mp spaced
              exact Bool.and_eq_true_iff.mpr ⟨here, induction behind⟩
      | block path body =>
          obtain ⟨inside, behind⟩ := Bool.and_eq_true_iff.mp spaced
          rw [keptLeaves]
          split
          · exact spaced_append (spaced_of_unready inside) (induction behind)
          · exact spaced_of_unready (induction behind)

theorem printable_kept (printable : ∀ node ∈ nodes, node.Printable) (context : Context) :
    ∀ leaf ∈ keptLeaves context nodes, leaf.Printable := by
  induction nodes with
  | nil => exact List.forall_mem_nil _
  | cons node rest induction =>
      obtain ⟨here, others⟩ := List.forall_mem_cons.mp printable
      have behind := induction others
      cases node with
      | leaf part => exact List.forall_mem_cons.mpr ⟨here, behind⟩
      | block path body =>
          rw [keptLeaves]
          split
          · exact List.forall_mem_append.mpr ⟨here.2, behind⟩
          · exact behind

theorem brace_free_of_plain {text : List Char} (plain : Plain text) : '{' ∉ text := by
  intro brace
  cases plain _ brace

/-- The induction is on the leaves: behind a slot comes text or nothing, so what is written there does not
begin with a brace. -/
theorem single_braced_pieces (single : SingleBraced context)
    (printable : ∀ leaf ∈ leaves, leaf.Printable) (spaced : Leaf.spaced ready leaves = true)
    (start : List Char) :
    Undoubled '{' (pieces context start leaves).flatten ∧
      (ready = false → (pieces context start leaves).flatten.head? ≠ some '{') := by
  induction leaves generalizing ready start with
  | nil => exact ⟨undoubled_of_not_mem List.not_mem_nil, fun _ => (Option.some_ne_none _).symm⟩
  | cons leaf rest induction =>
      obtain ⟨here, others⟩ := List.forall_mem_cons.mp printable
      rw [pieces_cons, List.flatten_cons]
      cases leaf with
      | text source =>
          obtain ⟨filled, plain⟩ := here
          have braceFree := brace_free_of_plain plain
          rw [Leaf.write, undoubled_append_of_not_mem braceFree]
          refine ⟨(induction others spaced _).1, ?_⟩
          intro _ first
          rw [List.head?_append_of_ne_nil _ filled] at first
          exact braceFree (List.mem_of_mem_head? first)
      | placeholder slot =>
          obtain ⟨rfl, behind⟩ := Bool.and_eq_true_iff.mp spaced
          obtain ⟨undoubled, apart⟩ := induction others behind
            (start ++ (Leaf.placeholder slot).source)
          refine ⟨?_, fun unready => absurd unready (by decide)⟩
          rw [undoubled_append]
          exact ⟨single_braced_slot here single start, undoubled, fun both => apart rfl both.2⟩

end Spacing

/-- A printed template with text between its slots writes no doubled brace of its own. -/
theorem single_braced_render {nodes : List Node} (printable : ∀ node ∈ nodes, node.Printable)
    (spaced : Node.spaced true nodes = true) {context : Context} (single : SingleBraced context) :
    Undoubled '{' (render context (write nodes)) := by
  rw [render_write printable]
  exact (single_braced_pieces single (printable_kept printable context)
    (spaced_kept spaced context) []).1

end SchoolNotice.Template
