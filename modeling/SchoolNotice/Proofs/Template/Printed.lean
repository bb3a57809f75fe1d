import SchoolNotice.Proofs.Template.Candidates
import SchoolNotice.Proofs.Template.Literal

/-!
# Printed templates

A template that is written from nodes is read back: every tag in it is a tag of the nodes, every opener
goes with the close that was written for it, and filling the template is filling the nodes. Only texts
that were written side by side come back as one.
-/

namespace SchoolNotice.Template

open SchoolNotice.Text

/-! ## The tags of the printer -/

section Tags

variable {path : List Char}

theorem is_tag_block_opener (filled : path ≠ []) (plain : Plain path)
    (word : ∀ char ∈ path, isBlank char = false) :
    IsTag (blockOpener path) (.blockOpen (blockOpener path) path) := by
  have directive : Plain "#if ".toList := by decide
  have opened : Plain ("#if ".toList ++ path) := by
    intro char member
    rcases List.mem_append.mp member with start | inside
    · exact directive char start
    · exact plain char inside
  have ending : Trimmed ("#if ".toList ++ path) := by
    constructor
    · intro char first
      obtain rfl : '#' = char := Option.some.inj first
      rfl
    · intro char last
      rw [List.getLast?_append_of_ne_nil _ filled] at last
      exact word char (List.mem_of_getLast? last)
  have words : trim ("#if ".toList ++ path) = "#if".toList ++ [' '] ++ path := trim_of_trimmed ending
  apply IsTag.blockOpen opened words
  · decide
  · exact ⟨filled, word⟩

theorem tag_at_whole {source : List Char} {token : Token} :
    tagAt source = some (token, []) ↔ IsTag source token := by
  simp [tag_at_eq_some]

theorem is_tag_block_close : IsTag blockClose (.blockClose blockClose) :=
  .blockClose (by decide) (by decide)

end Tags

/-! ## What can be written -/

/-- A text without a brace, or a slot whose source is a tag for it. -/
def Leaf.Printable : Leaf → Prop
  | .text source => source ≠ [] ∧ Plain source
  | .placeholder slot => IsTag slot.source (.placeholder slot)

def Node.Printable : Node → Prop
  | .leaf part => part.Printable
  | .block path body =>
      (path ≠ [] ∧ Plain path ∧ ∀ char ∈ path, isBlank char = false) ∧
        ∀ leaf ∈ body, leaf.Printable

instance : DecidablePred Leaf.Printable
  | .text source => inferInstanceAs (Decidable (source ≠ [] ∧ Plain source))
  | .placeholder slot =>
      decidable_of_iff (tagAt slot.source = some (.placeholder slot, [])) tag_at_whole

instance : DecidablePred Node.Printable
  | .leaf part => inferInstanceAs (Decidable part.Printable)
  | .block path body =>
      inferInstanceAs (Decidable ((path ≠ [] ∧ Plain path ∧ ∀ char ∈ path, isBlank char = false) ∧
        ∀ leaf ∈ body, leaf.Printable))

def Token.IsLeaf : Token → Prop
  | .text source => Plain source
  | .placeholder _ => True
  | .blockOpen _ _ => False
  | .blockClose _ => False

/-- Nothing in the group is a tag without a meaning, an opener without a close, or a close without an
opener. -/
def Group.Settled : Group → Prop
  | .single token => token.IsLeaf
  | .block _ _ body _ => ∀ token ∈ body, token.IsLeaf

/-! ## Leaves that write the same -/

section Alike

variable {first second third fourth : List Leaf}

def Alike (first second : List Leaf) : Prop :=
  first.flatMap Leaf.source = second.flatMap Leaf.source ∧
    ∀ context start, (pieces context start first).flatten = (pieces context start second).flatten

theorem alike_refl (leaves : List Leaf) : Alike leaves leaves := ⟨rfl, fun _ _ => rfl⟩

theorem alike_trans (one : Alike first second) (two : Alike second third) : Alike first third := by
  refine ⟨one.1.trans two.1, ?_⟩
  intro context start
  exact (one.2 context start).trans (two.2 context start)

theorem alike_append (one : Alike first second) (two : Alike third fourth) :
    Alike (first ++ third) (second ++ fourth) := by
  constructor
  · rw [List.flatMap_append, List.flatMap_append, one.1, two.1]
  · intro context start
    rw [pieces_append, pieces_append, List.flatten_append, List.flatten_append, one.1, one.2, two.2]

theorem alike_cons (leaf : Leaf) (two : Alike third fourth) :
    Alike (leaf :: third) (leaf :: fourth) :=
  alike_append (alike_refl [leaf]) two

/-- A text may be cut in two. -/
theorem alike_text (source next : List Char) (leaves : List Leaf) :
    Alike (.text (source ++ next) :: leaves) (.text source :: .text next :: leaves) := by
  constructor
  · simp [Leaf.source]
  · intro context start
    simp [pieces_cons, Leaf.write, Leaf.source]

theorem alike_cons_text (source : List Char) (tokens : List Token) :
    Alike ((consText source tokens).map Leaf.ofToken)
      (.text source :: tokens.map Leaf.ofToken) := by
  cases source with
  | nil =>
      rw [cons_text_nil]
      constructor
      · simp [Leaf.source]
      · intro context start
        simp [pieces_cons, Leaf.write, Leaf.source]
  | cons char source =>
      rcases cons_text_cases char source tokens with ⟨next, rest, rfl, found⟩ | ⟨-, found⟩
      · rw [found]
        exact alike_text _ _ _
      · rw [found]
        exact alike_refl _

end Alike

/-! ## Reading back -/

section Reading

variable {source : List Char} {leaves : List Leaf} {found : List Token} {groups : List Group}
  {nodes : List Node}

theorem scan_plain_append (plain : Plain source) (rest : List Char) :
    scan (source ++ rest) = consText source (scan rest) := by
  apply scan_untagged
  intro left right whole filled
  apply tag_at_of_not_opens
  intro opens
  obtain ⟨inner, after, begins, -⟩ := opens
  obtain ⟨char, right, rfl⟩ := List.exists_cons_of_ne_nil filled
  obtain rfl : char = '{' := (List.cons.inj begins).1
  have brace := plain '{' (by rw [whole]; exact List.mem_append_right left List.mem_cons_self)
  cases brace

theorem leaves_cons_text (plain : Plain source) (settled : ∀ token ∈ found, token.IsLeaf) :
    ∀ token ∈ consText source found, token.IsLeaf := by
  cases source with
  | nil => rwa [cons_text_nil]
  | cons char source =>
      rcases cons_text_cases char source found with ⟨next, rest, rfl, joined⟩ | ⟨-, joined⟩
      · obtain ⟨plainNext, others⟩ := List.forall_mem_cons.mp settled
        rw [joined]
        have together : Plain (char :: source ++ next) := List.forall_mem_append.mpr ⟨plain, plainNext⟩
        exact List.forall_mem_cons.mpr ⟨together, others⟩
      · rw [joined]
        exact List.forall_mem_cons.mpr ⟨plain, settled⟩

theorem scan_leaves (printable : ∀ leaf ∈ leaves, leaf.Printable) :
    (∀ token ∈ scan (leaves.flatMap Leaf.source), token.IsLeaf) ∧
      Alike ((scan (leaves.flatMap Leaf.source)).map Leaf.ofToken) leaves := by
  induction leaves with
  | nil =>
      rw [List.flatMap_nil, scan_nil]
      exact ⟨List.forall_mem_nil _, alike_refl _⟩
  | cons leaf rest induction =>
      obtain ⟨here, others⟩ := List.forall_mem_cons.mp printable
      obtain ⟨settled, alike⟩ := induction others
      rw [List.flatMap_cons]
      cases leaf with
      | text source =>
          have plain : Plain source := here.2
          rw [Leaf.source, scan_plain_append plain]
          exact ⟨leaves_cons_text plain settled,
            alike_trans (alike_cons_text _ _) (alike_cons _ alike)⟩
      | placeholder slot =>
          have parts := scan_around_tag here [] (rest.flatMap Leaf.source)
          rw [scan_nil, List.nil_append, List.nil_append] at parts
          rw [Leaf.source, parts]
          exact ⟨List.forall_mem_cons.mpr ⟨trivial, settled⟩, alike_cons _ alike⟩

/-- Text in front joins the first group if that is a text, and is a group of its own otherwise. -/
theorem paired_cons_text (plain : Plain source) (paired : Paired found groups)
    (settled : ∀ group ∈ groups, group.Settled) :
    ∃ others, Paired (consText source found) others ∧ (∀ group ∈ others, group.Settled) ∧
      ∀ context, Alike (keptLeaves context (others.map Group.node))
        (.text source :: keptLeaves context (groups.map Group.node)) := by
  cases source with
  | nil =>
      refine ⟨groups, by rwa [cons_text_nil], settled, ?_⟩
      intro context
      constructor
      · rfl
      · intro _ start
        simp [pieces_cons, Leaf.write, Leaf.source]
  | cons char source =>
      rcases cons_text_cases char source found with ⟨next, rest, rfl, joined⟩ | ⟨-, joined⟩
      · cases paired with
        | single alone behind =>
            obtain ⟨plainNext, others⟩ := List.forall_mem_cons.mp settled
            have together : Plain (char :: source ++ next) :=
              List.forall_mem_append.mpr ⟨plain, plainNext⟩
            rw [joined]
            refine ⟨.single (.text (char :: source ++ next)) :: _, .single ?_ behind, ?_, ?_⟩
            · intro _ _ same
              cases same
            · exact List.forall_mem_cons.mpr ⟨together, others⟩
            · intro context
              exact alike_text _ _ _
      · rw [joined]
        refine ⟨.single (.text (char :: source)) :: groups, .single ?_ paired, ?_, ?_⟩
        · intro _ _ same
          cases same
        · exact List.forall_mem_cons.mpr ⟨plain, settled⟩
        · intro context
          exact alike_refl _

/-- The induction is on the nodes: in front of tokens that are already in groups a leaf stands alone or
joins a text, and a block is closed by its own close, since no close stands among its leaves. -/
theorem paired_write (printable : ∀ node ∈ nodes, node.Printable) :
    ∃ groups, Paired (scan (write nodes)) groups ∧ (∀ group ∈ groups, group.Settled) ∧
      ∀ context, Alike (keptLeaves context (groups.map Group.node)) (keptLeaves context nodes) := by
  induction nodes with
  | nil =>
      refine ⟨[], ?_, List.forall_mem_nil _, fun _ => alike_refl _⟩
      rw [write, List.flatMap_nil, scan_nil]
      exact .nil
  | cons node rest induction =>
      obtain ⟨here, others⟩ := List.forall_mem_cons.mp printable
      obtain ⟨groups, paired, settled, alike⟩ := induction others
      have whole : write (node :: rest) = node.write ++ write rest := List.flatMap_cons
      rw [whole]
      cases node with
      | leaf leaf =>
          cases leaf with
          | text source =>
              have plain : Plain source := here.2
              obtain ⟨more, joined, inside, same⟩ := paired_cons_text plain paired settled
              rw [Node.write, Leaf.source, scan_plain_append plain]
              exact ⟨more, joined, inside,
                fun context => alike_trans (same context) (alike_cons _ (alike context))⟩
          | placeholder slot =>
              have parts := scan_around_tag here [] (write rest)
              rw [scan_nil, List.nil_append, List.nil_append] at parts
              rw [Node.write, Leaf.source, parts]
              refine ⟨.single (.placeholder slot) :: groups, .single ?_ paired, ?_, ?_⟩
              · intro _ _ same
                cases same
              · exact List.forall_mem_cons.mpr ⟨trivial, settled⟩
              · intro context
                exact alike_cons _ (alike context)
      | block path body =>
          obtain ⟨⟨filled, plain, word⟩, leaves⟩ := here
          obtain ⟨inside, sameBody⟩ := scan_leaves leaves
          have unclosed : Unclosed (scan (body.flatMap Leaf.source)) := by
            intro close member
            exact inside _ member
          have parts : scan (Node.write (.block path body) ++ write rest) =
              .blockOpen (blockOpener path) path ::
                (scan (body.flatMap Leaf.source) ++ .blockClose blockClose :: scan (write rest)) := by
            have opened := scan_around_tag (is_tag_block_opener filled plain word) []
              (body.flatMap Leaf.source ++ (blockClose ++ write rest))
            rw [scan_nil, List.nil_append, List.nil_append, scan_around_tag is_tag_block_close] at opened
            rw [Node.write, List.append_assoc, List.append_assoc, opened]
          rw [parts]
          refine ⟨.block _ path _ _ :: groups, .block unclosed paired, ?_, ?_⟩
          · exact List.forall_mem_cons.mpr ⟨inside, settled⟩
          · intro context
            rw [List.map_cons, Group.node, keptLeaves, keptLeaves]
            split
            · exact alike_append sameBody (alike context)
            · exact alike context

end Reading

section Templates

variable {nodes : List Node}

/-- All braces stand in tags with a meaning, and each opener goes with a close of its own. -/
def WellFormed (template : List Char) : Prop :=
  ∃ groups, Paired (tokens template) groups ∧ ∀ group ∈ groups, group.Settled

theorem well_formed_write (printable : ∀ node ∈ nodes, node.Printable) : WellFormed (write nodes) := by
  obtain ⟨groups, paired, settled, -⟩ := paired_write printable
  rw [← tokens_scan] at paired
  exact ⟨groups, paired, settled⟩

/-- A template that was written from nodes is filled like these. -/
theorem render_write (printable : ∀ node ∈ nodes, node.Printable) (context : Context) :
    render context (write nodes) = interpolate context (keptLeaves context nodes) := by
  obtain ⟨groups, paired, -, alike⟩ := paired_write printable
  obtain ⟨others, again, same⟩ := nodes_paired (tokens (write nodes))
  rw [← tokens_scan] at paired
  rw [render, Node.ofText, same, paired_unique paired again]
  exact (alike context).2 context []

end Templates

end SchoolNotice.Template
