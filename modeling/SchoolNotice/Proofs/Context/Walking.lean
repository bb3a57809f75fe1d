import SchoolNotice.Proofs.Context.Reachable
import SchoolNotice.Proofs.Text.Cut

/-!
Looking up a path in a context. The keys of a context have no capitals and neither have those of a folded path, so
the second spelling that is tried at each object, which has one, is never there: what is found is what a walk by
the folded keys finds.
-/

namespace SchoolNotice

open SchoolNotice.Text

namespace Json

theorem get_of_not_small {members : Members} (folded : FoldedMembers members) {key : List Char}
    (capital : ¬KeyCase.Small key) : Members.get? (String.ofList key) members = none := by
  rw [Option.eq_none_iff_forall_ne_some]
  intro value found
  have small := (folded_members_iff.mp folded (String.ofList key, value) (Members.mem_of_get found)).1
  rw [String.toList_ofList] at small
  exact capital small

/-- In folded data there is nothing under the other spelling of a key without capitals. -/
theorem get_alternate {members : Members} (folded : FoldedMembers members) {key other : List Char}
    (small : KeyCase.Small key) (spelled : KeyCase.alternate key = some other) :
    Members.get? (String.ofList other) members = none :=
  get_of_not_small folded (KeyCase.alternate_not_small small spelled)

theorem hop_of_folded {members : Members} (folded : FoldedMembers members) {key : List Char}
    (small : KeyCase.Small key) : hop key members = Members.get? (String.ofList key) members := by
  have nothing : ((KeyCase.alternate key).bind fun other =>
      Members.get? (String.ofList other) members) = none :=
    Option.bind_eq_none_iff.mpr fun other spelled => get_alternate folded small spelled
  rw [hop_eq, nothing, Option.or_none]

theorem descend_of_folded {data : Json} (folded : Folded data) {keys : List (List Char)}
    (small : ∀ key ∈ keys, KeyCase.Small key) : descend keys data = walk keys data := by
  induction keys generalizing data with
  | nil => rfl
  | cons key rest induction =>
      obtain ⟨first, behind⟩ := List.forall_mem_cons.mp small
      cases data with
      | object members =>
          rw [descend, walk, hop_of_folded folded first]
          apply Option.bind_congr
          intro value found
          exact induction (all_keys_get folded found) behind
      | _ => rfl

theorem walk_folded {data value : Json} (folded : Folded data) {keys : List (List Char)}
    (found : walk keys data = some value) : Folded value := by
  induction keys generalizing data with
  | nil =>
      cases found
      exact folded
  | cons key rest induction =>
      cases data with
      | object members =>
          rw [walk, Option.bind_eq_some_iff] at found
          obtain ⟨next, there, below⟩ := found
          exact induction (all_keys_get folded there) below
      | _ => cases found

end Json

namespace Context

def foldedKeys (path : List Char) : List (List Char) := (split '.' path).map KeyCase.snake

theorem folded_keys_small (path : List Char) : ∀ key ∈ foldedKeys path, KeyCase.Small key := by
  rw [foldedKeys, List.forall_mem_map]
  exact fun piece _ => KeyCase.snake_small piece

/-- Joining the folded keys moves no boundary between them. -/
theorem split_fold_path (path : List Char) : split '.' (foldPath path) = foldedKeys path := by
  apply split_intercalate
  · rw [Ne, List.map_eq_nil_iff]
    exact split_ne_nil '.' path
  · rw [List.forall_mem_map]
    exact fun piece inside => KeyCase.undotted_snake (not_mem_of_mem_split inside)

theorem resolve_eq_walk {context : Context} (folded : Json.FoldedMembers context.members)
    (path : List Char) : context.resolve? path = Json.walk (foldedKeys path) context.toJson := by
  have whole : Json.Folded context.toJson := folded
  rw [resolve?, Json.resolve?, split_fold_path, Json.descend_of_folded whole (folded_keys_small path)]

/-- A path leads through a context by exactly its folded keys. The other spelling of a key, which would be tried
where a key is missing, is missing too; the boundaries between the keys stay where they were; and so paths with the
same folded keys find the same. -/
theorem resolve_walks {context : Context} (reachable : Reachable context) (path : List Char) :
    context.resolve? path = Json.walk ((split '.' path).map KeyCase.snake) context.toJson ∧
      (∀ keys members, Json.walk keys context.toJson = some (.object members) →
        ∀ segment other, KeyCase.alternate (KeyCase.snake segment) = some other →
          Json.Members.get? (String.ofList other) members = none) ∧
        split '.' (foldPath path) = (split '.' path).map KeyCase.snake ∧
          ∀ other, (split '.' other).map KeyCase.snake = (split '.' path).map KeyCase.snake →
            context.resolve? other = context.resolve? path := by
  have folded := folded_of_reachable reachable
  have whole : Json.Folded context.toJson := folded
  constructor
  · exact resolve_eq_walk folded path
  constructor
  · intro keys members found segment other spelled
    have below : Json.FoldedMembers members := Json.walk_folded whole found
    exact Json.get_alternate below (KeyCase.snake_small segment) spelled
  constructor
  · exact split_fold_path path
  · intro other same
    rw [resolve_eq_walk folded, resolve_eq_walk folded, foldedKeys, same, foldedKeys]

theorem resolve_walks_doubled_underscore :
    let context := (ofJson (.ofMembers [("first__pupil", .ofMembers [("lastName", .string "Sato")])])).insert
      "_1a" (.array [.null])
    let path := "First__pupil.last_name".toList
    Reachable context ∧ context.resolve? path = some (.string "Sato") ∧
      context.resolve? "first__pupil.lastName".toList = context.resolve? path ∧
        context.resolve? "first_Pupil.lastName".toList = context.resolve? path ∧
          context.resolve? "first__pupil._last".toList = none := by
  intro context path
  have reachable : Reachable context := (Reachable.ofJson _).insert "_1a" (.array [.null])
  have walks := resolve_walks reachable
  constructor
  · exact reachable
  constructor
  · exact (walks path).1
  constructor
  · exact (walks path).2.2.2 _ (by decide)
  constructor
  · exact (walks path).2.2.2 _ (by decide)
  · exact (walks "first__pupil._last".toList).1

end Context

end SchoolNotice
