import SchoolNotice.Proofs.Template.Blocks
import SchoolNotice.Proofs.Template.Filling

/-!
# The places of the leaves that stay

Deciding the blocks keeps some tokens of a template and drops the others. `keptPlaces` does it once more
and keeps the places instead of the leaves, so that one occurrence of a slot can be told from another.
The places ascend, they are those of `StaysAt`, and their leaves are the leaves that stay.
-/

namespace SchoolNotice.Template

/-- The places in a group, counted from its first token, of the leaves that stay. -/
def Group.places (context : Context) : Group → List Nat
  | .single _ => [0]
  | .block _ path body _ => if isKept context path then List.range' 1 body.length else []

def keptPlaces (context : Context) : List Group → List Nat
  | [] => []
  | group :: rest =>
      group.places context ++ (keptPlaces context rest).map fun place => group.tokens.length + place

section Places

variable {context : Context} {tokens : List Token} {groups : List Group}

theorem mem_places_block {source path close : List Char} {body : List Token} {place : Nat} :
    place ∈ (Group.block source path body close).places context ↔
      isKept context path = true ∧ 0 < place ∧ place < body.length + 1 := by
  simp only [Group.places]
  split
  · rename_i kept
    rw [List.mem_range'_1, Nat.add_comm 1]
    simp only [kept, true_and]
    rfl
  · rename_i removed
    simp [removed]

theorem length_of_block (source path close : List Char) (body : List Token) :
    (Group.block source path body close).tokens.length = body.length + 2 := by
  simp [Group.tokens]

theorem place_within_group {group : Group} {place : Nat} (member : place ∈ group.places context) :
    place < group.tokens.length := by
  cases group with
  | single token => simpa [Group.places, Group.tokens] using member
  | block source path body close =>
      have inside := mem_places_block.1 member
      rw [length_of_block]
      omega

theorem kept_places_ascend (context : Context) (groups : List Group) :
    (keptPlaces context groups).Pairwise (· < ·) := by
  induction groups with
  | nil => exact .nil
  | cons group rest induction =>
      have inner : (group.places context).Pairwise (· < ·) := by
        cases group with
        | single token => exact List.pairwise_singleton _ _
        | block source path body close =>
            simp only [Group.places]
            split
            · exact List.pairwise_lt_range'
            · exact .nil
      have later : ((keptPlaces context rest).map
          fun place => group.tokens.length + place).Pairwise (· < ·) := by
        rw [List.pairwise_map]
        apply induction.imp
        intro first second before
        exact Nat.add_lt_add_left before _
      apply List.pairwise_append.2 ⟨inner, later, ?_⟩
      intro first early second late
      have within := place_within_group early
      obtain ⟨place, -, rfl⟩ := List.mem_map.1 late
      exact Nat.lt_of_lt_of_le within (Nat.le_add_right _ _)

theorem leaves_of_run (front body back : List Token) :
    (body.map Leaf.ofToken).map some =
      (List.range' front.length body.length).map (leafAt (front ++ (body ++ back))) := by
  induction body generalizing front with
  | nil => rfl
  | cons token body induction =>
      have later := induction (front ++ [token])
      rw [List.append_assoc, List.length_append] at later
      have here : leafAt (front ++ (token :: body ++ back)) front.length =
          some (Leaf.ofToken token) := by
        simp [leafAt]
      rw [List.map_cons, List.map_cons, List.length_cons, List.range'_succ, List.map_cons, here]
      exact congrArg (List.cons _) later

theorem leaves_of_group (group : Group) (rest : List Token) :
    (keptLeaves context [group.node]).map some =
      (group.places context).map (leafAt (group.tokens ++ rest)) := by
  cases group with
  | single token => rfl
  | block source path body close =>
      simp only [Group.node, keptLeaves, Group.places, List.append_nil]
      split
      · have run := leaves_of_run [.blockOpen source path] body (.blockClose close :: rest)
        simpa [Group.tokens] using run
      · rfl

/-- The kept places lead to the leaves that stay, in their order. -/
theorem leaves_of_places (context : Context) (groups : List Group) :
    (keptLeaves context (groups.map Group.node)).map some =
      (keptPlaces context groups).map (leafAt (groups.flatMap Group.tokens)) := by
  induction groups with
  | nil => rfl
  | cons group rest induction =>
      have split : keptLeaves context ((group :: rest).map Group.node) =
          keptLeaves context [group.node] ++ keptLeaves context (rest.map Group.node) := by
        cases group with
        | single token => rfl
        | block source path body close =>
            simp [Group.node, keptLeaves]
      have behind : ∀ place, leafAt (group.tokens ++ rest.flatMap Group.tokens)
          (group.tokens.length + place) = leafAt (rest.flatMap Group.tokens) place := by
        intro place
        rw [leafAt, leafAt, token_behind]
      rw [split, List.map_append, induction, keptPlaces, List.map_append, List.map_map,
        List.flatMap_cons, leaves_of_group group (rest.flatMap Group.tokens)]
      congr 1
      apply List.map_congr_left
      intro place _
      exact (behind place).symm

/-! ## The rule for the places -/

/-- `StaysAt` with the blocks of these groups. -/
def StaysIn (context : Context) (groups : List Group) (place : Nat) : Prop :=
  place < (groups.flatMap Group.tokens).length ∧
    ∀ first last, Group.Spans groups first last → first ≤ place → place ≤ last →
      first < place ∧ place < last ∧
        ∃ source path, (groups.flatMap Group.tokens)[first]? = some (.blockOpen source path) ∧
          Holds context path

theorem spans_within {group : Group} {first last : Nat} (spans : Group.Spans [group] first last) :
    first < last ∧ last < group.tokens.length := by
  cases group with
  | single token => exact absurd spans spans_single
  | block source path body close =>
      obtain ⟨rfl, rfl⟩ := spans_block.1 spans
      rw [length_of_block]
      omega

theorem tokens_of_single (group : Group) : [group].flatMap Group.tokens = group.tokens := by
  simp

theorem mem_places_iff (group : Group) (place : Nat) :
    place ∈ group.places context ↔ StaysIn context [group] place := by
  unfold StaysIn
  rw [tokens_of_single]
  cases group with
  | single token =>
      constructor
      · intro member
        apply And.intro (place_within_group member)
        intro first last spans
        exact absurd spans spans_single
      · intro stays
        simpa [Group.places, Group.tokens] using stays.1
  | block source path body close =>
      rw [mem_places_block, is_kept_iff, length_of_block]
      constructor
      · intro inside
        obtain ⟨holds, after, before⟩ := inside
        apply And.intro (by omega)
        intro first last spans _ _
        obtain ⟨rfl, rfl⟩ := spans_block.1 spans
        exact ⟨after, before, source, path, rfl, holds⟩
      · intro stays
        have spans : Group.Spans [.block source path body close] 0 (body.length + 1) :=
          spans_block.2 ⟨rfl, rfl⟩
        have within := stays.1
        obtain ⟨after, before, opener, word, same, holds⟩ :=
          stays.2 0 (body.length + 1) spans (Nat.zero_le _) (by omega)
        have tags : Token.blockOpen source path = .blockOpen opener word := by
          simpa [Group.tokens] using same
        have paths := (Token.blockOpen.inj tags).2
        exact ⟨paths ▸ holds, after, before⟩

/-- In the first group the blocks behind it do not matter, and behind it the first group does not. -/
theorem stays_in_cons (group : Group) (rest : List Group) (place : Nat) :
    StaysIn context (group :: rest) place ↔
      StaysIn context [group] place ∨
        ∃ later, place = group.tokens.length + later ∧ StaysIn context rest later := by
  have size : ((group :: rest).flatMap Group.tokens).length =
      group.tokens.length + (rest.flatMap Group.tokens).length := by
    rw [List.flatMap_cons, List.length_append]
  unfold StaysIn
  rw [size, List.flatMap_cons, tokens_of_single]
  constructor
  · intro stays
    obtain ⟨within, rule⟩ := stays
    by_cases early : place < group.tokens.length
    · left
      apply And.intro early
      intro first last spans after before
      have opener := rule first last (spans_cons.2 (.inl spans)) after before
      rwa [List.getElem?_append_left (Nat.lt_of_le_of_lt after early)] at opener
    · obtain ⟨later, rfl⟩ := Nat.exists_eq_add_of_le (Nat.le_of_not_lt early)
      right
      refine ⟨later, rfl, by omega, ?_⟩
      intro first last spans after before
      have shifted : Group.Spans (group :: rest) (group.tokens.length + first)
          (group.tokens.length + last) := spans_cons.2 (.inr ⟨first, last, rfl, rfl, spans⟩)
      have opener := rule _ _ shifted (Nat.add_le_add_left after _) (Nat.add_le_add_left before _)
      rw [token_behind] at opener
      exact ⟨Nat.lt_of_add_lt_add_left opener.1, Nat.lt_of_add_lt_add_left opener.2.1, opener.2.2⟩
  · intro either
    cases either with
    | inl here =>
        obtain ⟨within, rule⟩ := here
        apply And.intro (by omega)
        intro first last spans after before
        cases spans_cons.1 spans with
        | inl inner =>
            rw [List.getElem?_append_left (Nat.lt_of_le_of_lt after within)]
            exact rule first last inner after before
        | inr outer =>
            obtain ⟨start, stop, rfl, -, -⟩ := outer
            omega
    | inr behind =>
        obtain ⟨later, rfl, within, rule⟩ := behind
        apply And.intro (by omega)
        intro first last spans after before
        cases spans_cons.1 spans with
        | inl inner =>
            have ending := (spans_within inner).2
            omega
        | inr outer =>
            obtain ⟨start, stop, rfl, rfl, inner⟩ := outer
            rw [token_behind]
            have opener := rule start stop inner (by omega) (by omega)
            exact ⟨Nat.add_lt_add_left opener.1 _, Nat.add_lt_add_left opener.2.1 _, opener.2.2⟩

theorem mem_kept_places_iff (groups : List Group) (place : Nat) :
    place ∈ keptPlaces context groups ↔ StaysIn context groups place := by
  induction groups generalizing place with
  | nil => simp [keptPlaces, StaysIn]
  | cons group rest induction =>
      rw [keptPlaces, List.mem_append, List.mem_map, mem_places_iff]
      simp only [induction]
      rw [stays_in_cons group rest]
      apply or_congr_right
      apply exists_congr
      intro later
      rw [and_comm, eq_comm]

theorem stays_at_iff (context : Context) (paired : Paired tokens groups) (place : Nat) :
    StaysAt context tokens place ↔ place ∈ keptPlaces context groups := by
  rw [mem_kept_places_iff, StaysIn, paired_tokens paired, StaysAt]
  simp only [block_at_iff_spans paired]

end Places

end SchoolNotice.Template
