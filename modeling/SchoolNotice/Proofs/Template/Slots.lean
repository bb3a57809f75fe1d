import SchoolNotice.Template.Printer
import SchoolNotice.Proofs.Template.Filling

/-!
# Two fillings of one template

A context acts on a template in two ways: by the paths of the blocks, and by what the candidates of
each slot give. Two contexts that agree on the first keep the same leaves, and a piece of the output
differs only if its own slot is filled differently, whatever the values hold.
-/

namespace SchoolNotice.Template

variable {first second : Context}

theorem kept_leaves_same {nodes : List Node}
    (agree : ∀ path body, Node.block path body ∈ nodes → isKept first path = isKept second path) :
    keptLeaves first nodes = keptLeaves second nodes := by
  induction nodes with
  | nil => rfl
  | cons node rest induction =>
      have others := induction fun path body member =>
        agree path body (List.mem_cons_of_mem node member)
      cases node with
      | leaf leaf => rw [keptLeaves, keptLeaves, others]
      | block path body =>
          have here := agree path body List.mem_cons_self
          rw [keptLeaves, keptLeaves, others, here]

theorem write_same {slot : Placeholder} (same : slot.fill? first = slot.fill? second)
    (before : List Char) :
    (Leaf.placeholder slot).write first before = (Leaf.placeholder slot).write second before := by
  rw [Leaf.write, Leaf.write, same]

theorem pieces_same {leaves : List Leaf}
    (same : ∀ slot, Leaf.placeholder slot ∈ leaves → slot.fill? first = slot.fill? second)
    (start : List Char) : pieces first start leaves = pieces second start leaves := by
  induction leaves generalizing start with
  | nil => rfl
  | cons leaf rest induction =>
      have others := induction (fun slot member => same slot (List.mem_cons_of_mem leaf member))
      rw [pieces_cons, pieces_cons, others]
      cases leaf with
      | text source => rfl
      | placeholder slot => rw [write_same (same slot List.mem_cons_self)]

/-- If the slots apart from one are filled alike, nothing apart from its own piece can differ. -/
theorem filled_around (before after : List Leaf) (leaf : Leaf)
    (same : ∀ slot, Leaf.placeholder slot ∈ before ++ after →
      slot.fill? first = slot.fill? second) :
    ∃ front back,
      interpolate first (before ++ leaf :: after) =
        front ++ leaf.write first (before.flatMap Leaf.source) ++ back ∧
      interpolate second (before ++ leaf :: after) =
        front ++ leaf.write second (before.flatMap Leaf.source) ++ back := by
  let source := before.flatMap Leaf.source ++ leaf.source
  have early := pieces_same (fun slot member => same slot (List.mem_append_left after member)) []
  have late := pieces_same (fun slot member => same slot (List.mem_append_right before member))
    source
  refine ⟨(pieces first [] before).flatten, (pieces first source after).flatten, ?_, ?_⟩
  · rw [interpolate, pieces_split, List.flatten_append, List.flatten_cons, List.append_assoc]
  · rw [interpolate, pieces_split, ← early, ← late, List.flatten_append, List.flatten_cons,
      List.append_assoc]

/-- Contexts that decide the blocks of a template alike keep the same leaves, and their two outputs
have one piece for each of them. The pieces of texts are the texts, those of a slot are alike if it
is filled alike, and where it is the only one that is not, the rest of the outputs is the same. -/
theorem slots_apart {template : List Char}
    (agree : ∀ path body, Node.block path body ∈ Node.ofText template →
      isKept first path = isKept second path) :
    ∃ leaves,
      keptLeaves first (Node.ofText template) = leaves ∧
      keptLeaves second (Node.ofText template) = leaves ∧
      render first template = (pieces first [] leaves).flatten ∧
      render second template = (pieces second [] leaves).flatten ∧
      (pieces first [] leaves).length = leaves.length ∧
      (pieces second [] leaves).length = leaves.length ∧
      ∀ before leaf after, leaves = before ++ leaf :: after →
        (∀ source, leaf = .text source →
          (pieces first [] leaves)[before.length]? = some source ∧
          (pieces second [] leaves)[before.length]? = some source) ∧
        (∀ slot, leaf = .placeholder slot → slot.fill? first = slot.fill? second →
          (pieces first [] leaves)[before.length]? =
            (pieces second [] leaves)[before.length]?) ∧
        ((∀ slot, .placeholder slot ∈ before ++ after →
            slot.fill? first = slot.fill? second) →
          ∃ front back,
            render first template =
              front ++ leaf.write first (before.flatMap Leaf.source) ++ back ∧
            render second template =
              front ++ leaf.write second (before.flatMap Leaf.source) ++ back) := by
  have kept := kept_leaves_same agree
  refine ⟨keptLeaves first (Node.ofText template), rfl, kept.symm, rfl, ?_,
    length_pieces first [] _, length_pieces second [] _, ?_⟩
  · rw [render, interpolate, kept]
  · intro before leaf after split
    rw [split, piece_at, piece_at]
    refine ⟨?_, ?_, ?_⟩
    · intro source text
      rw [text]
      exact ⟨rfl, rfl⟩
    · intro slot placeholder same
      rw [placeholder, write_same same]
    · intro same
      rw [render, render, ← kept, split]
      exact filled_around before after leaf same

def visit (guest : List Char) : Context :=
  ⟨[("guest", .string (String.ofList guest)), ("open", .bool true), ("room", .string "7")]⟩

def visitNotice : List Char :=
  blockOpener "open".toList ++ enclose "guest".toList ++ blockClose ++ enclose "room".toList

/-- A value that looks like the tags around it stays in its own slot. -/
theorem slots_apart_tags_as_value :
    ∃ front back,
      render (visit "you".toList) visitNotice = front ++ "you".toList ++ back ∧
      render (visit (blockClose ++ enclose "room".toList)) visitNotice =
        front ++ (blockClose ++ enclose "room".toList) ++ back := by
  have nodes : Node.ofText visitNotice =
      [.block "open".toList
          [.placeholder ⟨enclose "guest".toList, [.path "guest".toList]⟩],
        .leaf (.placeholder ⟨enclose "room".toList, [.path "room".toList]⟩)] := by
    decide +kernel
  have agree : ∀ path body, Node.block path body ∈ Node.ofText visitNotice →
      isKept (visit "you".toList) path =
        isKept (visit (blockClose ++ enclose "room".toList)) path := by
    intro path body member
    rw [nodes] at member
    have same : path = "open".toList := by simpa using And.left (by simpa using member)
    rw [same]
    decide +kernel
  obtain ⟨leaves, kept, -, -, -, -, -, apart⟩ := slots_apart agree
  have split : leaves =
      [] ++ .placeholder ⟨enclose "guest".toList, [.path "guest".toList]⟩ ::
        [.placeholder ⟨enclose "room".toList, [.path "room".toList]⟩] := by
    rw [← kept, nodes]
    decide +kernel
  obtain ⟨-, -, around⟩ := apart _ _ _ split
  apply around
  intro slot member
  have same : slot = ⟨enclose "room".toList, [.path "room".toList]⟩ := by simpa using member
  rw [same]
  decide +kernel

end SchoolNotice.Template
