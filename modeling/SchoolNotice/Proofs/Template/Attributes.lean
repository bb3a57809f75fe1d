import SchoolNotice.Proofs.Template.Places
import SchoolNotice.Template.Printer

/-!
# Slots inside an attribute

Text without braces in front of a tag is the end of one token, whatever stands before it, and blocks end
at their tags only. So where a slot stays, the text before it stays too, and an opener near enough is in
the window.
-/

namespace SchoolNotice.Text

theorem suffix_of_tail {count : Nat} {part text : List Char} (suffix : part <:+ text)
    (short : part.length ≤ count) : part <:+ tail count text := by
  have window := eq_tail_iff.1 (rfl : tail count text = tail count text)
  apply List.suffix_of_suffix_length_le suffix window.1
  rw [window.2]
  exact Nat.le_min.2 ⟨short, suffix.length_le⟩

end SchoolNotice.Text

namespace SchoolNotice.Template

open SchoolNotice.Text

section Before

variable {tokens : List Token} {before text : List Char}

theorem last_of_tag {source : List Char} {token : Token} (tag : IsTag source token) :
    source.getLast? = some '}' := by
  obtain ⟨inner, rfl, -, -⟩ := is_tag_iff.1 tag
  have whole : enclose inner = ('{' :: '{' :: inner ++ ['}']) ++ ['}'] := by
    simp [enclose]
  rw [whole, List.getLast?_concat]

/-- Tokens whose source ends in text without braces do not end in a tag. -/
theorem ends_in_text
    (tags : ∀ token ∈ tokens, token.isText = false → IsTag token.source token)
    (sources : tokens.flatMap Token.source = before ++ text) (plain : Plain text)
    (filled : text ≠ []) : ∃ front source, tokens = front ++ [.text source] := by
  rcases List.eq_nil_or_concat' tokens with rfl | ⟨front, last, rfl⟩
  · have empty : text = [] := (List.append_eq_nil_iff.1 sources.symm).2
    exact absurd empty filled
  · by_cases isText : last.isText = true
    · cases last with
      | text source => exact ⟨front, source, rfl⟩
      | _ => cases isText
    · have brace := last_of_tag (tags last (by simp) (eq_false_of_ne_true isText))
      have ends := congrArg List.getLast? sources
      rw [List.flatMap_append, List.flatMap_singleton, List.getLast?_append,
        List.getLast?_append, brace, Option.some_or, List.getLast?_eq_some_getLast filled,
        Option.some_or] at ends
      have member : '}' ∈ text := by
        rw [Option.some.inj ends]
        exact List.getLast_mem filled
      exact absurd (plain '}' member) (by decide)

/-- Text without braces at the end of some tokens is the end of their last one. -/
theorem text_before
    (tags : ∀ token ∈ tokens, token.isText = false → IsTag token.source token)
    (apart : tokens.IsChain fun first second => ¬ (first.isText = true ∧ second.isText = true))
    (sources : tokens.flatMap Token.source = before ++ text) (plain : Plain text)
    (filled : text ≠ []) :
    ∃ front source, tokens = front ++ [.text source] ∧ text <:+ source := by
  obtain ⟨front, source, rfl⟩ := ends_in_text tags sources plain filled
  refine ⟨front, source, rfl, ?_⟩
  rw [List.flatMap_append, List.flatMap_singleton] at sources
  rcases List.append_eq_append_iff.1 sources with ⟨more, -, whole⟩ | ⟨more, earlier, whole⟩
  · exact ⟨more, whole.symm⟩
  · by_cases none : more = []
    · subst none
      rw [whole]
      exact List.suffix_rfl
    · -- The token before would end in the text, too, and two texts would stand side by side.
      have plainMore : Plain more := by
        intro char member
        apply plain
        rw [whole]
        exact List.mem_append_left _ member
      have tagsFront : ∀ token ∈ front, token.isText = false → IsTag token.source token := by
        intro token member
        exact tags token (List.mem_append_left _ member)
      obtain ⟨earlierFront, neighbour, rfl⟩ := ends_in_text tagsFront earlier plainMore none
      rw [List.append_assoc] at apart
      have pair := (List.isChain_append.1 apart).2.1
      exact absurd ⟨rfl, rfl⟩ (List.isChain_cons_cons.1 pair).1

end Before

section Opener

variable {template before opener pad tag after : List Char} {slot : Placeholder}

theorem plain_of_opener (opens : opener ∈ attributeOpeners) : Plain opener := by
  have all : attributeOpeners.all (·.all fun char => !isBrace char) = true := rfl
  intro char member
  have plain := List.all_eq_true.mp (List.all_eq_true.mp all opener opens) char member
  simpa using plain

theorem opener_filled (opens : opener ∈ attributeOpeners) : opener ≠ [] := by
  have all : ∀ opener ∈ attributeOpeners, opener ≠ [] := by decide
  exact all opener opens

/-- The tag is a token, and the one before it is a text that ends in the attribute's opening. -/
theorem tokens_at_slot (parts : template = before ++ opener ++ pad ++ tag ++ after)
    (opens : opener ∈ attributeOpeners) (plain : Plain pad)
    (alone : tokens tag = [.placeholder slot]) :
    ∃ front source right,
      tokens template = front ++ .text source :: .placeholder slot :: right ∧
      (front ++ [Token.text source]).flatMap Token.source = before ++ opener ++ pad ∧
      opener ++ pad <:+ source := by
  have found := scan_at_tag (alone_iff.1 alone) (before ++ opener ++ pad) after
  rw [← List.append_assoc, ← parts] at found
  obtain ⟨left, right, whole, sources⟩ := found
  have tags : ∀ token ∈ left, token.isText = false → IsTag token.source token := by
    intro token member
    have inside : token ∈ scan template := by
      rw [whole]
      exact List.mem_append_left _ member
    exact tag_of_mem_scan inside
  have gathered := gathered_scan template
  rw [whole] at gathered
  have apart := (List.isChain_append.1 gathered.2).1
  have plainOpening : Plain (opener ++ pad) := by
    intro char member
    cases List.mem_append.1 member with
    | inl early => exact plain_of_opener opens char early
    | inr late => exact plain char late
  have filled : opener ++ pad ≠ [] := by
    intro empty
    exact opener_filled opens (List.append_eq_nil_iff.1 empty).1
  have same : left.flatMap Token.source = before ++ (opener ++ pad) := by
    rw [sources, List.append_assoc]
  obtain ⟨front, source, rfl, suffix⟩ := text_before tags apart same plainOpening filled
  refine ⟨front, source, right, ?_, sources, suffix⟩
  rw [tokens_scan, whole, List.append_assoc]
  rfl

end Opener

theorem write_in_attribute {context : Context} {source opener pad : List Char}
    {slot : Placeholder} (opens : opener ∈ attributeOpeners)
    (near : (opener ++ pad).length ≤ lookBack) (suffix : opener ++ pad <:+ source) :
    (Leaf.placeholder slot).write context source = slot.bare context := by
  have inside : isAttributePosition (tail lookBack source) = true := by
    rw [isAttributePosition, List.any_eq_true]
    refine ⟨opener, opens, occurs_in_iff.2 ?_⟩
    exact (List.prefix_append opener pad).isInfix.trans (suffix_of_tail suffix near).isInfix
  rw [Leaf.write, Placeholder.bare]
  cases slot.fill? context with
  | none => rfl
  | some filling =>
      cases filling with
      | other text => rfl
      | string text => simp [Filling.write, Filling.text, embed?, inside]

/-! ## A slot and the text before it -/

section Neighbours

variable {context : Context} {front right : List Token} {source : List Char} {slot : Placeholder}

/-- No block begins or ends between a text and a slot behind it. -/
theorem stays_at_before
    (stays : StaysAt context (front ++ .text source :: .placeholder slot :: right)
      (front.length + 1)) :
    StaysAt context (front ++ .text source :: .placeholder slot :: right) front.length := by
  have here : (front ++ Token.text source :: .placeholder slot :: right)[front.length]? =
      some (.text source) := by simp
  obtain ⟨within, rule⟩ := stays
  apply And.intro (by omega)
  intro first last block after before
  have tags := block
  rw [BlockAt] at tags
  obtain ⟨⟨_, _, opener⟩, ⟨_, ⟨_, close⟩, _⟩, _⟩ := tags
  have outsideOpener : first ≠ front.length := by
    rintro rfl
    rw [here] at opener
    cases opener
  have outsideClose : last ≠ front.length := by
    rintro rfl
    rw [here] at close
    cases close
  obtain ⟨-, -, holds⟩ := rule first last block (by omega) (by omega)
  exact ⟨by omega, by omega, holds⟩

theorem neighbours_of_ascending {places : List Nat} {place index : Nat}
    (ascend : places.Pairwise (· < ·)) (member : place ∈ places)
    (here : places[index]? = some (place + 1)) :
    ∃ front back, places = front ++ place :: (place + 1) :: back ∧ index = front.length + 1 := by
  obtain ⟨within, value⟩ := List.getElem?_eq_some_iff.1 here
  have split := List.take_append_drop index places
  have length : (places.take index).length = index := List.length_take_of_le within.le
  rw [List.drop_eq_getElem_cons within, value] at split
  rw [← split] at ascend member
  obtain ⟨inner, outer, across⟩ := List.pairwise_append.1 ascend
  have early : place ∈ places.take index := by
    rcases List.mem_append.1 member with early | late
    · exact early
    · rcases List.mem_cons.1 late with same | later
      · omega
      · have above := (List.pairwise_cons.1 outer).1 place later
        omega
  rcases List.eq_nil_or_concat' (places.take index) with none | ⟨front, last, whole⟩
  · rw [none] at early
    exact absurd early List.not_mem_nil
  · have below : last < place + 1 := across last (by simp [whole]) (place + 1) (by simp)
    have same : last = place := by
      rw [whole] at early inner
      rcases List.mem_append.1 early with before | final
      · have order := (List.pairwise_append.1 inner).2.2 place before last (by simp)
        omega
      · exact (List.mem_singleton.1 final).symm
    rw [whole, same] at split length
    refine ⟨front, places.drop (index + 1), ?_, ?_⟩
    · rw [List.append_assoc] at split
      exact split.symm
    · rw [← length, List.length_append, List.length_singleton]

/-- Where a slot stays, the text before it is the last leaf before it that stays. -/
theorem leaves_at_slot {groups : List Group} {index : Nat}
    (paired : Paired (front ++ .text source :: .placeholder slot :: right) groups)
    (here : (keptPlaces context groups)[index]? = some (front.length + 1)) :
    ∃ earlier later,
      keptLeaves context (groups.map Group.node) =
        (earlier ++ [.text source]) ++ .placeholder slot :: later ∧
      (earlier ++ [Leaf.text source]).length = index := by
  have stays := (stays_at_iff context paired _).2 (List.mem_of_getElem? here)
  have member := (stays_at_iff context paired _).1 (stays_at_before stays)
  obtain ⟨before, after, split, rfl⟩ :=
    neighbours_of_ascending (kept_places_ascend context groups) member here
  have leaves := leaves_of_places context groups
  rw [paired_tokens paired, split, List.map_append, List.map_cons, List.map_cons] at leaves
  obtain ⟨earlier, rest, kept, lengths, behind⟩ := List.map_eq_append_iff.1 leaves
  obtain ⟨text, others, rfl, first, behind⟩ := List.map_eq_cons_iff.1 behind
  obtain ⟨next, later, rfl, second, -⟩ := List.map_eq_cons_iff.1 behind
  have isText : text = .text source := by
    simpa [leafAt, Leaf.ofToken, Token.source] using first
  have isSlot : next = .placeholder slot := by
    simpa [leafAt, Leaf.ofToken] using second
  have size := congrArg List.length lengths
  rw [List.length_map, List.length_map] at size
  refine ⟨earlier, later, ?_, ?_⟩
  · rw [kept, isText, isSlot, List.append_assoc]
    rfl
  · rw [List.length_append, List.length_singleton, size]

end Neighbours

/-- A slot behind an attribute's opener is a token of its own in any template around it. Where it
stays, it writes its bare value and no image tag, whatever the context holds. -/
theorem attribute_value_bare {template before opener pad tag after : List Char}
    {slot : Placeholder} (parts : template = before ++ opener ++ pad ++ tag ++ after)
    (opens : opener ∈ attributeOpeners) (plain : Plain pad)
    (near : (opener ++ pad).length ≤ lookBack) (alone : tokens tag = [.placeholder slot]) :
    ∃ left right : List Token,
      tokens template = left ++ .placeholder slot :: right ∧
      left.flatMap Token.source = before ++ opener ++ pad ∧
      ∀ context, ∃ places : List Nat,
        places.Pairwise (· < ·) ∧
        (∀ place, place ∈ places ↔ StaysAt context (tokens template) place) ∧
        (keptLeaves context (Node.ofText template)).map some =
          places.map (leafAt (tokens template)) ∧
        render context template =
          (pieces context [] (keptLeaves context (Node.ofText template))).flatten ∧
        ∀ index : Nat, places[index]? = some left.length →
          (pieces context [] (keptLeaves context (Node.ofText template)))[index]? =
            some (slot.bare context) := by
  obtain ⟨front, source, right, whole, sources, suffix⟩ := tokens_at_slot parts opens plain alone
  refine ⟨front ++ [.text source], right, ?_, sources, ?_⟩
  · rw [whole, List.append_assoc]
    rfl
  · intro context
    obtain ⟨groups, paired, nodes⟩ := nodes_paired (tokens template)
    have leaves := leaves_of_places context groups
    rw [← nodes, paired_tokens paired] at leaves
    refine ⟨keptPlaces context groups, kept_places_ascend context groups, ?_, leaves, rfl, ?_⟩
    · intro place
      exact (stays_at_iff context paired place).symm
    · intro index here
      rw [List.length_append, List.length_singleton] at here
      rw [whole] at paired
      obtain ⟨earlier, later, kept, rfl⟩ := leaves_at_slot paired here
      have ends : opener ++ pad <:+ (earlier ++ [Leaf.text source]).flatMap Leaf.source := by
        rw [List.flatMap_append, List.flatMap_singleton]
        exact suffix.trans (List.suffix_append _ _)
      rw [Node.ofText, nodes, kept, piece_at, write_in_attribute opens near ends]

def photoPath : List Char := "/uploads/ana.png".toList

def photoPage : List Char :=
  (blockOpener "open".toList ++ "<img ".toList) ++ "src=\"".toList ++ " ".toList ++
    enclose "photo".toList ++ ("\">".toList ++ blockClose)

def openDay : Context := ⟨[("open", .bool true), ("photo", .string "/uploads/ana.png")]⟩

/-- Inside the attribute the address of an image stays an address. -/
theorem attribute_value_bare_photo :
    isImageAddress photoPath = true ∧
      photoPath ∈ pieces openDay [] (keptLeaves openDay (Node.ofText photoPage)) := by
  let slot : Placeholder := ⟨enclose "photo".toList, [.path "photo".toList]⟩
  let inside : List Token :=
    [.text "<img src=\" ".toList, .placeholder slot, .text "\">".toList]
  have found : tokens photoPage = .blockOpen (blockOpener "open".toList) "open".toList ::
      (inside ++ .blockClose blockClose :: []) := by
    decide +kernel
  have alone : tokens (enclose "photo".toList) = [.placeholder slot] := by decide +kernel
  have opens : "src=\"".toList ∈ attributeOpeners := List.mem_cons_self
  have parts : photoPage = (blockOpener "open".toList ++ "<img ".toList) ++ "src=\"".toList ++
      " ".toList ++ enclose "photo".toList ++ ("\">".toList ++ blockClose) := rfl
  obtain ⟨left, right, whole, -, every⟩ :=
    attribute_value_bare parts opens (by simp [Plain, isBrace]) (by decide) alone
  obtain ⟨places, -, stays, -, -, piece⟩ := every openDay
  have place : left.length = 2 := by
    have here : (tokens photoPage)[left.length]? = some (.placeholder slot) := by simp [whole]
    rw [found] at here
    generalize left.length = place at here
    rcases place with _ | _ | _ | _ | _ | later <;> simp [inside] at here ⊢
  have kept : left.length ∈ places := by
    have paired : Paired (tokens photoPage)
        [.block (blockOpener "open".toList) "open".toList inside blockClose] := by
      rw [found]
      exact .block (by simp [Unclosed, inside]) .nil
    rw [stays, stays_at_iff openDay paired, place]
    decide +kernel
  obtain ⟨index, here⟩ := List.mem_iff_getElem?.1 kept
  have bare : slot.bare openDay = photoPath := by decide +kernel
  constructor
  · decide +kernel
  · rw [← bare]
    exact List.mem_of_getElem? (piece index here)

end SchoolNotice.Template
