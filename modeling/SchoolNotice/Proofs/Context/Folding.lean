import SchoolNotice.Context
import SchoolNotice.Json.Keys
import SchoolNotice.Proofs.Text.KeyCase

/-!
Folded data has no capital in any key, and folding it again leaves it as it is. All that builds a context folds
what it puts in, so the data of a context is folded whatever built it.
-/

namespace SchoolNotice

open SchoolNotice.Text

namespace Json

theorem Members.mem_of_get {key : String} {value : Json} {members : Members}
    (found : Members.get? key members = some value) : (key, value) ∈ members := by
  induction members with
  | nil => cases found
  | cons first rest induction =>
      rw [Members.get?] at found
      split at found
      next same =>
        cases found
        rw [← same]
        exact List.mem_cons_self
      next different => exact List.mem_cons_of_mem first (induction found)

section Keys

variable {property : String → Prop}

theorem all_keys_items_iff {items : List Json} :
    AllKeysItems property items ↔ ∀ item ∈ items, AllKeys property item := by
  induction items with
  | nil => exact ⟨fun _ => nofun, fun _ => trivial⟩
  | cons first rest induction => rw [AllKeysItems, induction, List.forall_mem_cons]

theorem all_keys_members_iff {members : Members} :
    AllKeysMembers property members ↔
      ∀ member ∈ members, property member.1 ∧ AllKeys property member.2 := by
  induction members with
  | nil => exact ⟨fun _ => nofun, fun _ => trivial⟩
  | cons first rest induction =>
      rw [AllKeysMembers, induction, List.forall_mem_cons, and_assoc]

theorem all_keys_get {members : Members} (all : AllKeysMembers property members) {key : String}
    {value : Json} (found : Members.get? key members = some value) : AllKeys property value :=
  (all_keys_members_iff.mp all (key, value) (Members.mem_of_get found)).2

theorem mem_insert {key : String} {value : Json} {members : Members} {member : String × Json}
    (inside : member ∈ Members.insert key value members) :
    member = (key, value) ∨ member ∈ members := by
  induction members with
  | nil => exact .inl (List.mem_singleton.mp inside)
  | cons first rest induction =>
      unfold Members.insert at inside
      split at inside
      · exact List.mem_cons.mp inside
      · split at inside
        · rcases List.mem_cons.mp inside with same | behind
          · exact .inl same
          · exact .inr (List.mem_cons_of_mem first behind)
        · rcases List.mem_cons.mp inside with same | behind
          · exact .inr (same ▸ List.mem_cons_self)
          · exact (induction behind).imp_right (List.mem_cons_of_mem first)

theorem all_keys_insert {key : String} {value : Json} {members : Members} (keyed : property key)
    (valued : AllKeys property value) (all : AllKeysMembers property members) :
    AllKeysMembers property (Members.insert key value members) := by
  rw [all_keys_members_iff] at all ⊢
  intro member inside
  rcases mem_insert inside with rfl | old
  · exact ⟨keyed, valued⟩
  · exact all member old

end Keys

/-- No key at any depth has a capital. -/
def Folded (data : Json) : Prop := AllKeys (fun key => KeyCase.Small key.toList) data

def FoldedMembers (members : Members) : Prop :=
  AllKeysMembers (fun key => KeyCase.Small key.toList) members

theorem folded_members_iff {members : Members} :
    FoldedMembers members ↔
      ∀ member ∈ members, KeyCase.Small member.1.toList ∧ Folded member.2 :=
  all_keys_members_iff

theorem folded_insert {key : String} {value : Json} {members : Members}
    (small : KeyCase.Small key.toList) (valued : Folded value) (folded : FoldedMembers members) :
    FoldedMembers (Members.insert key value members) :=
  all_keys_insert small valued folded

theorem folded_insert_absent {key : String} {value : Json} {members : Members}
    (small : KeyCase.Small key.toList) (valued : Folded value) (folded : FoldedMembers members) :
    FoldedMembers (Members.insertAbsent key value members) := by
  unfold Members.insertAbsent
  split
  · exact folded
  · exact folded_insert small valued folded

/-- Renamed keys go in one by one, after those that stay as they are. -/
theorem renamed_keeps {holds : Members → Prop} {members : Members}
    (kept : holds (members.filter fun member => KeyCase.snakeKey member.1 == member.1))
    (adds : ∀ folded, holds folded → ∀ member ∈ members,
      holds (Members.insertAbsent (KeyCase.snakeKey member.1) member.2 folded)) :
    holds (Members.renamed members) := by
  apply List.foldlRecOn _ _ kept
  intro folded held member inside
  exact adds folded held member (List.mem_filter.mp inside).1

theorem folded_renamed {members : Members} (values : ∀ member ∈ members, Folded member.2) :
    FoldedMembers (Members.renamed members) := by
  apply renamed_keeps
  · rw [folded_members_iff]
    intro member inside
    obtain ⟨old, same⟩ := List.mem_filter.mp inside
    exact ⟨(KeyCase.snake_key_eq_iff member.1).mp (eq_of_beq same), values member old⟩
  · intro folded held member inside
    exact folded_insert_absent (KeyCase.snake_key_small member.1) (values member inside) held

theorem renamed_of_folded {members : Members} (folded : FoldedMembers members) :
    Members.renamed members = members := by
  rw [folded_members_iff] at folded
  have same : ∀ member ∈ members, KeyCase.snakeKey member.1 = member.1 :=
    fun member inside => (KeyCase.snake_key_eq_iff member.1).mpr (folded member inside).1
  have kept : members.filter (fun member => KeyCase.snakeKey member.1 == member.1) = members :=
    List.filter_eq_self.mpr fun member inside => beq_iff_eq.mpr (same member inside)
  have changed : members.filter (fun member => KeyCase.snakeKey member.1 != member.1) = [] := by
    apply List.filter_eq_nil_iff.mpr
    intro member inside
    rw [same member inside, bne_self_eq_false]
    exact Bool.false_ne_true
  rw [Members.renamed, kept, changed]
  rfl

theorem fold_members_eq (members : Members) :
    foldMembers members = members.map fun member => (member.1, foldKeys member.2) := by
  induction members with
  | nil => rfl
  | cons first rest induction => rw [foldMembers, induction, List.map_cons]

theorem fold_items_eq (items : List Json) : foldItems items = items.map foldKeys := by
  induction items with
  | nil => rfl
  | cons first rest induction => rw [foldItems, induction, List.map_cons]

mutual

theorem fold_keys_folded (data : Json) : Folded (foldKeys data) := by
  cases data with
  | array items => exact all_keys_items_iff.mpr (fold_items_folded items)
  | object members => exact folded_renamed (fold_members_folded members)
  | _ => trivial

theorem fold_items_folded (items : List Json) : ∀ item ∈ foldItems items, Folded item := by
  cases items with
  | nil => nofun
  | cons first rest =>
      rw [foldItems, List.forall_mem_cons]
      exact ⟨fold_keys_folded first, fold_items_folded rest⟩

theorem fold_members_folded (members : Members) :
    ∀ member ∈ foldMembers members, Folded member.2 := by
  match members with
  | [] => nofun
  | (key, value) :: rest =>
      rw [foldMembers, List.forall_mem_cons]
      exact ⟨fold_keys_folded value, fold_members_folded rest⟩

end

mutual

theorem fold_keys_of_folded (data : Json) (folded : Folded data) : foldKeys data = data := by
  cases data with
  | array items => rw [foldKeys, fold_items_of_folded items folded]
  | object members =>
      rw [foldKeys, fold_members_of_folded members folded, renamed_of_folded folded]
  | _ => rfl

theorem fold_items_of_folded (items : List Json)
    (folded : AllKeysItems (fun key => KeyCase.Small key.toList) items) :
    foldItems items = items := by
  cases items with
  | nil => rfl
  | cons first rest =>
      rw [foldItems, fold_keys_of_folded first folded.1, fold_items_of_folded rest folded.2]

theorem fold_members_of_folded (members : Members) (folded : FoldedMembers members) :
    foldMembers members = members := by
  match members with
  | [] => rfl
  | (key, value) :: rest =>
      rw [foldMembers, fold_keys_of_folded value folded.2.1, fold_members_of_folded rest folded.2.2]

end

/-- Folding twice is folding once. -/
theorem fold_keys_twice (data : Json) : foldKeys (foldKeys data) = foldKeys data :=
  fold_keys_of_folded (foldKeys data) (fold_keys_folded data)

end Json

end SchoolNotice
