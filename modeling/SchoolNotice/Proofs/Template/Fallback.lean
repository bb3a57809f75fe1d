import SchoolNotice.Proofs.Template.Candidates
import SchoolNotice.Proofs.Template.Literal

/-!
# Slots that fall back

A slot has a value where one of its candidates has one. Behind the last tag of a template all is text, so
a slot there is written into the filled front of the template, and what it writes depends on its value
and on the source before it alone. Hence a chain is filled like its first part or like the rest.
-/

namespace SchoolNotice

/-! ## Values are never written as nothing -/

theorem Number.Binary64.text_ne_empty (number : Number.Binary64) : number.text ≠ "" := by
  rw [Binary64.text]
  simp only
  split
  · simp
  · intro empty
    have body := String.ofList_eq_empty_iff.mp (String.append_eq_empty_iff.mp empty).2
    revert body
    split_ifs <;> simp

theorem Number.text_ne_empty (number : Number) : number.text ≠ "" := by
  cases number with
  | integer value =>
      cases value with
      | ofNat magnitude => exact Nat.repr_ne_empty
      | negSucc magnitude => simp [Number.text, toString, Int.repr]
  | real value => exact value.text_ne_empty

theorem Json.compact_chars_ne_nil (value : Json) : value.compactChars ≠ [] := by
  cases value with
  | null => exact List.cons_ne_nil _ _
  | bool flag => cases flag <;> exact List.cons_ne_nil _ _
  | number value =>
      intro empty
      exact value.text_ne_empty (String.toList_eq_nil_iff.mp empty)
  | string value => exact List.cons_ne_nil _ _
  | array items => exact List.cons_ne_nil _ _
  | object members => exact List.cons_ne_nil _ _

namespace Template

section Values

variable {context : Context} {filling : Filling}

/-- The candidate has a value: it is a literal that is not empty, or it leads to data other than null and
the empty text. -/
inductive Candidate.HasValue (context : Context) : Candidate → Prop
  | literal {text : List Char} (filled : text ≠ []) : HasValue context (.literal text)
  | path {name : List Char} {value : Json} (found : context.resolve? name = some value)
      (notNull : value ≠ .null) (notEmpty : value ≠ .string "") : HasValue context (.path name)

def Placeholder.HasValue (context : Context) (slot : Placeholder) : Prop :=
  ∃ candidate ∈ slot.candidates, candidate.HasValue context

theorem is_some_of_json {value : Json} :
    (Filling.ofJson? value).isSome = true ↔ value ≠ .null ∧ value ≠ .string "" := by
  cases value with
  | null => simp [Filling.ofJson?]
  | string text => by_cases empty : text = "" <;> simp [Filling.ofJson?, empty]
  | _ => simp [Filling.ofJson?]

theorem text_of_json {value : Json} (filled : Filling.ofJson? value = some filling) :
    filling.text ≠ [] := by
  cases value with
  | null => cases filled
  | string text =>
      rw [Filling.ofJson?, Option.ite_none_left_eq_some] at filled
      obtain ⟨notEmpty, same⟩ := filled
      rw [← Option.some.inj same]
      intro empty
      exact notEmpty (String.toList_eq_nil_iff.mp empty)
  | _ =>
      rw [← Option.some.inj filled]
      exact Json.compact_chars_ne_nil _

theorem is_some_candidate {candidate : Candidate} :
    (candidate.fill? context).isSome = true ↔ candidate.HasValue context := by
  cases candidate with
  | literal text =>
      constructor
      · intro filled
        apply Candidate.HasValue.literal
        rintro rfl
        cases filled
      · intro hasValue
        cases hasValue with
        | literal filled => rw [Candidate.fill?, if_neg filled, Option.isSome_some]
  | path name =>
      rw [Candidate.fill?]
      constructor
      · intro filled
        obtain ⟨found, same⟩ := Option.isSome_iff_exists.mp filled
        obtain ⟨value, resolved, read⟩ := Option.bind_eq_some_iff.mp same
        have other := is_some_of_json.mp (Option.isSome_of_eq_some read)
        exact .path resolved other.1 other.2
      · intro hasValue
        cases hasValue with
        | path resolved notNull notEmpty =>
            rw [resolved, Option.bind_some]
            exact is_some_of_json.mpr ⟨notNull, notEmpty⟩

theorem text_of_candidate {candidate : Candidate} (filled : candidate.fill? context = some filling) :
    filling.text ≠ [] := by
  cases candidate with
  | literal text =>
      rw [Candidate.fill?, Option.ite_none_left_eq_some] at filled
      rw [← Option.some.inj filled.2]
      exact filled.1
  | path name =>
      obtain ⟨value, -, read⟩ := Option.bind_eq_some_iff.mp filled
      exact text_of_json read

theorem is_some_slot {slot : Placeholder} :
    (slot.fill? context).isSome = true ↔ slot.HasValue context := by
  rw [Placeholder.fill?, List.isSome_findSome?, List.any_eq_true]
  constructor
  · intro found
    obtain ⟨candidate, member, filled⟩ := found
    exact ⟨candidate, member, is_some_candidate.mp filled⟩
  · intro found
    obtain ⟨candidate, member, hasValue⟩ := found
    exact ⟨candidate, member, is_some_candidate.mpr hasValue⟩

theorem text_of_slot {slot : Placeholder} (filled : slot.fill? context = some filling) :
    filling.text ≠ [] := by
  obtain ⟨candidate, -, value⟩ := List.exists_of_findSome?_eq_some filled
  exact text_of_candidate value

end Values

/-! ## Behind the last tag -/

def TagFree (text : List Char) : Prop :=
  ∀ left tag right token, text = left ++ tag ++ right → ¬ IsTag tag token

section Behind

variable {context : Context} {after source : List Char} {slot : Placeholder}
  {left right : List Token} {groups : List Group}

theorem tag_free_iff : TagFree after ↔ ∀ token ∈ tokens after, token.isText = true := by
  rw [tokens_scan]
  constructor
  · intro free token member
    cases kind : token.isText with
    | true => rfl
    | false =>
        have tag := tag_of_mem_scan member kind
        obtain ⟨front, back, whole⟩ := List.append_of_mem member
        have sources := scan_sources after
        rw [whole, List.flatMap_append, List.flatMap_cons, ← List.append_assoc] at sources
        exact absurd tag (free _ _ _ token sources.symm)
  · intro texts left tag right token whole found
    have member : token ∈ scan after := by
      rw [whole, List.append_assoc, scan_around_tag found]
      exact List.mem_append_right _ List.mem_cons_self
    have text := texts token member
    rw [is_text_of_tag found] at text
    cases text

/-- Tokens without a close change none of the pairs before them. -/
theorem paired_append (paired : Paired left groups) (unclosed : Unclosed right) :
    Paired (left ++ right) (groups ++ right.map Group.single) := by
  induction paired with
  | nil => exact paired_of_unclosed unclosed
  | @single token rest groups alone others induction =>
      apply Paired.single _ induction
      intro source path opener close member
      rcases List.mem_append.mp member with before | behind
      · exact alone source path opener close before
      · exact unclosed close behind
  | @block source path close body after groups inside others induction =>
      have block : Paired (.blockOpen source path :: (body ++ .blockClose close :: (after ++ right)))
          (.block source path body close :: (groups ++ right.map Group.single)) :=
        .block inside induction
      rwa [List.cons_append, List.append_assoc, List.cons_append]

theorem nodes_append (unclosed : Unclosed right) :
    Node.ofTokens (left ++ right) =
      Node.ofTokens left ++ (right.map Leaf.ofToken).map Node.leaf := by
  obtain ⟨groups, paired, nodes⟩ := nodes_paired left
  obtain ⟨others, whole, all⟩ := nodes_paired (left ++ right)
  rw [all, nodes, paired_unique (paired_append paired unclosed) whole, List.map_append,
    List.map_map, List.map_map]
  rfl

theorem kept_append (front back : List Node) :
    keptLeaves context (front ++ back) = keptLeaves context front ++ keptLeaves context back := by
  induction front with
  | nil => rfl
  | cons node rest induction =>
      cases node with
      | leaf leaf => rw [List.cons_append, keptLeaves, keptLeaves, induction, List.cons_append]
      | block path body =>
          rw [List.cons_append, keptLeaves, keptLeaves, induction, List.append_assoc]

theorem fill_chain (context : Context) (source : List Char) (slot other : Placeholder) :
    Placeholder.fill? ⟨source, slot.candidates ++ other.candidates⟩ context =
      (slot.fill? context).or (other.fill? context) :=
  List.findSome?_append

theorem write_of_fill {other : Placeholder} (same : slot.fill? context = other.fill? context)
    (before : List Char) :
    (Leaf.placeholder slot).write context before = (Leaf.placeholder other).write context before := by
  rw [Leaf.write, Leaf.write, same]

/-- A slot with no tag behind it is written between the filled front and the text behind. -/
theorem render_at_slot (tag : IsTag source (.placeholder slot)) (free : TagFree after)
    (context : Context) (before : List Char) :
    render context (before ++ source ++ after) =
      render context before ++
        (Leaf.placeholder slot).write context
          ((keptLeaves context (Node.ofText before)).flatMap Leaf.source) ++ after := by
  have parts : tokens (before ++ source ++ after) =
      tokens before ++ .placeholder slot :: tokens after := by
    rw [List.append_assoc, tokens_scan, tokens_scan, tokens_scan, scan_around_tag tag]
  have unclosed : Unclosed (.placeholder slot :: tokens after) := by
    intro close member
    rcases List.mem_cons.mp member with same | behind
    · cases same
    · have text := tag_free_iff.mp free _ behind
      cases text
  have texts : (tokens after).map Leaf.ofToken = ((tokens after).map Token.source).map Leaf.text := by
    apply leaves_of_slotless
    intro other member
    have text := tag_free_iff.mp free _ member
    cases text
  have sources : ((tokens after).map Token.source).flatten = after := by
    rw [tokens_scan, ← List.flatMap_def, scan_sources]
  rw [render, Node.ofText, parts, nodes_append unclosed, kept_append, kept_of_leaves, List.map_cons,
    texts, interpolate, Leaf.ofToken, pieces_split, pieces_of_texts, List.flatten_append,
    List.flatten_cons, sources, ← List.append_assoc]
  rfl

end Behind

/-- Two expressions with a bar between them are one slot with the candidates of both. It is filled as
the first one wherever that has a value, and otherwise as the second, whatever stands around it. -/
theorem chain_falls_back {first second : List Char} {slot other : Placeholder}
    (one : tokens (enclose first) = [.placeholder slot])
    (two : tokens (enclose second) = [.placeholder other]) :
    tokens (enclose (joinBars [first, second])) =
        [.placeholder ⟨enclose (joinBars [first, second]), slot.candidates ++ other.candidates⟩] ∧
      ∀ context : Context,
        (∀ part : Placeholder, ((part.fill? context).isSome = true ↔ part.HasValue context) ∧
          ∀ filling, part.fill? context = some filling → filling.text ≠ []) ∧
        ∀ before after, TagFree after →
          render context (before ++ enclose (joinBars [first, second]) ++ after) =
            if (slot.fill? context).isSome then render context (before ++ enclose first ++ after)
            else render context (before ++ enclose second ++ after) := by
  obtain ⟨plainFirst, undirected, readFirst⟩ := slot_alone_iff.mp one
  obtain ⟨plainSecond, -, readSecond⟩ := slot_alone_iff.mp two
  have plain : Plain (joinBars [first, second]) := by
    apply plain_join
    simpa using ⟨plainFirst, plainSecond⟩
  have candidates : candidatesOf (joinBars [first, second]) = slot.candidates ++ other.candidates := by
    rw [candidates_of_join (List.cons_ne_nil _ _), List.flatMap_cons, List.flatMap_singleton,
      readFirst, readSecond]
  have chain : tokens (enclose (joinBars [first, second])) =
      [.placeholder ⟨enclose (joinBars [first, second]), slot.candidates ++ other.candidates⟩] := by
    apply slot_alone_iff.mpr
    exact ⟨plain, undirected_append undirected _, by rw [candidates]⟩
  refine ⟨chain, ?_⟩
  intro context
  constructor
  · intro part
    exact ⟨is_some_slot, fun filling => text_of_slot⟩
  · intro before after free
    have fill := fill_chain context (enclose (joinBars [first, second])) slot other
    rw [render_at_slot (alone_iff.mp chain) free, render_at_slot (alone_iff.mp one) free,
      render_at_slot (alone_iff.mp two) free]
    split
    · next filled =>
      rw [Option.or_of_isSome filled] at fill
      rw [write_of_fill fill]
    · next missing =>
      rw [Option.not_isSome_iff_eq_none.mp missing, Option.none_or] at fill
      rw [write_of_fill fill]

/-- Before the slot a block opens that never closes, and behind it stand the halves of a tag. -/
theorem chain_falls_back_nickname :
    ∃ slot other : Placeholder,
      tokens (enclose "nickname || ''".toList) = [.placeholder slot] ∧
      tokens (enclose "| || 'you'".toList) = [.placeholder other] ∧
      TagFree "\x7d\x7d \x7b\x7b!".toList ∧
      render ⟨[("nickname", .string "")]⟩
          ("\x7b\x7b#if open\x7d\x7dDear ".toList ++
            enclose (joinBars ["nickname || ''".toList, "| || 'you'".toList]) ++
              "\x7d\x7d \x7b\x7b!".toList) =
        "\x7b\x7b#if open\x7d\x7dDear you\x7d\x7d \x7b\x7b!".toList := by
  let slot : Placeholder :=
    ⟨enclose "nickname || ''".toList, [.path "nickname".toList, .literal []]⟩
  let other : Placeholder :=
    ⟨enclose "| || 'you'".toList, [.path ['|'], .literal "you".toList]⟩
  have one : tokens (enclose "nickname || ''".toList) = [.placeholder slot] := by decide +kernel
  have two : tokens (enclose "| || 'you'".toList) = [.placeholder other] := by decide +kernel
  have free : TagFree "\x7d\x7d \x7b\x7b!".toList := by
    rw [tag_free_iff]
    decide +kernel
  refine ⟨slot, other, one, two, free, ?_⟩
  have filled := ((chain_falls_back one two).2 ⟨[("nickname", .string "")]⟩).2
  rw [filled _ _ free]
  decide +kernel

end Template

end SchoolNotice
