import SchoolNotice.Proofs.Context.Collisions
import SchoolNotice.Proofs.Context.Walking

/-!
Contexts built entry by entry. The entries stand under their keys in snake case with their data folded, and of
several for one such key the last one stays. Where no two keys fall together, the order of the entries does not
matter, and reading them as one object gives the same context. A further entry is seen only by paths that begin
with its key.
-/

namespace SchoolNotice

open SchoolNotice.Text

namespace Json.Members

theorem get_insert (key other : String) (value : Json) (members : Members) :
    get? other (insert key value members) = get? other ((key, value) :: members) := by
  rw [get?]
  split
  next same => rw [← same, get_insert_self]
  next different => rw [get_insert_ne different]

/-- Of several values for one key the last one is found. -/
theorem get_of_list (key : String) (pairs : List (String × Json)) :
    get? key (ofList pairs) = get? key pairs.reverse := by
  rw [ofList, List.foldl_eq_foldr_reverse]
  induction pairs.reverse with
  | nil => rfl
  | cons last before induction => rw [List.foldr_cons, get_insert, get?, get?, induction]

theorem mem_keys_of_list {key : String} {pairs : List (String × Json)} :
    key ∈ (ofList pairs).keys ↔ key ∈ keys pairs := by
  rw [← not_iff_not, ← get_eq_none_iff, get_of_list, get_eq_none_iff, keys, List.map_reverse,
    List.mem_reverse]
  rfl

theorem get_of_list_last {before after : List (String × Json)} {key : String} (value : Json)
    (last : key ∉ keys after) :
    get? key (ofList (before ++ (key, value) :: after)) = some value := by
  have absent : key ∉ keys after.reverse := by
    rw [keys, List.map_reverse, List.mem_reverse]
    exact last
  rw [get_of_list, List.reverse_append, List.reverse_cons, get_append, get_append,
    get_eq_none_iff.mpr absent, get?, if_pos rfl]
  rfl

/-- Pairs with different keys make the same object in any order. -/
theorem of_list_eq_of_perm {pairs others : List (String × Json)} (distinct : (keys pairs).Nodup)
    (perm : List.Perm others pairs) : ofList others = ofList pairs := by
  have alsoDistinct := (keys_perm perm).nodup_iff.mpr distinct
  apply eq_of_perm (sorted_of_list others) (sorted_of_list pairs)
  calc
    List.Perm (ofList others) others := of_list_perm alsoDistinct
    List.Perm _ pairs := perm
    List.Perm _ (ofList pairs) := (of_list_perm distinct).symm

end Json.Members

namespace Context

def ofEntries (entries : List (String × Json)) : Context :=
  entries.foldl (fun context entry => context.insert entry.1 entry.2) empty

/-- An entry as it stands in a context. -/
def standing (entry : String × Json) : String × Json :=
  (KeyCase.snakeKey entry.1, Json.foldKeys entry.2)

theorem keys_standing (entries : List (String × Json)) :
    Json.Members.keys (entries.map standing) = entries.map fun entry => KeyCase.snakeKey entry.1 := by
  rw [Json.Members.keys, List.map_map]
  rfl

theorem standing_eq (entries : List (String × Json)) :
    entries.map standing = (Json.foldMembers entries).map Json.Members.snakeMember := by
  rw [Json.fold_members_eq, List.map_map]
  rfl

/-- Entry by entry a context becomes the object of its entries as they stand. -/
theorem members_of_entries (entries : List (String × Json)) :
    (ofEntries entries).members = Json.Members.ofList (entries.map standing) := by
  rw [ofEntries, Json.Members.ofList, List.foldl_map]
  exact (List.foldl_hom Context.members fun context entry => rfl).symm

theorem reachable_of_entries (entries : List (String × Json)) : Reachable (ofEntries entries) := by
  apply List.foldlRecOn _ _ Reachable.empty
  intro context before entry _
  exact before.insert entry.1 entry.2

/-- If no two keys fall together, the entries may as well be read as one object. -/
theorem of_entries_eq_of_json {entries : List (String × Json)}
    (distinct : (entries.map fun entry => KeyCase.snakeKey entry.1).Nodup) :
    ofEntries entries = ofJson (.ofMembers entries) := by
  rw [← keys_standing] at distinct
  have perm := (Json.Members.of_list_perm distinct).symm
  rw [standing_eq] at perm
  have folded := Json.renamed_fold_of_perm (Json.Members.sorted_of_list _) perm
  rw [ofJson, Json.ofMembers, Json.foldKeys, folded, ← standing_eq, ← members_of_entries]

theorem of_entries_eq_of_perm {entries others : List (String × Json)}
    (distinct : (entries.map fun entry => KeyCase.snakeKey entry.1).Nodup)
    (perm : List.Perm others entries) : ofEntries others = ofEntries entries := by
  rw [← keys_standing] at distinct
  have same := Json.Members.of_list_eq_of_perm distinct (perm.map standing)
  rw [← members_of_entries, ← members_of_entries] at same
  exact congrArg Context.mk same

/-- A path that begins with another key finds what it found before. -/
theorem resolve_insert_ne {context : Context} (folded : Json.FoldedMembers context.members)
    {key : String} {path : List Char}
    (different : (foldedKeys path).head? ≠ some (KeyCase.snake key.toList)) (value : Json) :
    (context.insert key value).resolve? path = context.resolve? path := by
  rw [resolve_eq_walk folded, resolve_eq_walk (folded_context_insert folded key value)]
  cases keys : foldedKeys path with
  | nil =>
      have empty := List.map_eq_nil_iff.mp keys
      exact absurd empty (split_ne_nil '.' path)
  | cons first rest =>
      rw [keys, List.head?_cons, Ne, Option.some_inj] at different
      have apart : KeyCase.snakeKey key ≠ String.ofList first := by
        rw [KeyCase.snakeKey, Ne, String.ofList_inj]
        exact Ne.symm different
      rw [toJson, toJson, Json.walk, Json.walk, insert, Json.Members.get_insert_ne apart]

/-- Entries put in one after the other stand under the snake case of their keys, the last one under each; and if
no two of them fall together, any order of them gives the context that is read from their object. What a further
entry changes begins with its key. -/
theorem built_as_read (entries : List (String × Json)) :
    ((ofEntries entries).members.Sorted ∧
      ∀ key, key ∈ (ofEntries entries).members.keys ↔
        ∃ entry ∈ entries, KeyCase.snakeKey entry.1 = key) ∧
    (∀ before key value after, entries = before ++ (key, value) :: after →
      (∀ later ∈ after, KeyCase.snakeKey later.1 ≠ KeyCase.snakeKey key) →
        Json.Members.get? (KeyCase.snakeKey key) (ofEntries entries).members =
          some (Json.foldKeys value)) ∧
    ((entries.map fun entry => KeyCase.snakeKey entry.1).Nodup →
      (∀ others, List.Perm others entries → ofEntries others = ofEntries entries) ∧
        ofEntries entries = ofJson (.ofMembers entries)) ∧
    ∀ context, Reachable context → ∀ key value path,
      ((split '.' path).map KeyCase.snake).head? ≠ some (KeyCase.snake key.toList) →
        (context.insert key value).resolve? path = context.resolve? path := by
  constructor
  · rw [members_of_entries]
    constructor
    · exact Json.Members.sorted_of_list (entries.map standing)
    · intro key
      rw [Json.Members.mem_keys_of_list, keys_standing, List.mem_map]
  constructor
  · intro before key value after whole last
    have absent : KeyCase.snakeKey key ∉ Json.Members.keys (after.map standing) := by
      rw [keys_standing, List.mem_map]
      rintro ⟨later, inside, same⟩
      exact last later inside same
    rw [members_of_entries, whole, List.map_append, List.map_cons, standing]
    exact Json.Members.get_of_list_last (Json.foldKeys value) absent
  constructor
  · intro distinct
    exact ⟨fun others perm => of_entries_eq_of_perm distinct perm, of_entries_eq_of_json distinct⟩
  · intro context reachable key value path different
    exact resolve_insert_ne (folded_of_reachable reachable) different value

theorem built_as_read_colliding :
    let camel := ("firstName", Json.string "Ana")
    let dorm := ("dorm.roomNo", Json.ofMembers [("bedNo", .null)])
    let snake := ("first_name", Json.string "Mia")
    let context := ofEntries [camel, dorm, snake]
    Json.Members.get? "first_name" context.members = some (.string "Mia") ∧
      Json.Members.get? "dorm.room_no" context.members = some (.object [("bed_no", .null)]) ∧
        ofEntries [snake, dorm] = ofEntries [dorm, snake] ∧
          ofEntries [dorm, snake] = ofJson (.ofMembers [dorm, snake]) ∧
            Reachable context ∧
              (context.insert "dorm" (.bool true)).resolve? "FirstName".toList =
                context.resolve? "FirstName".toList := by
  intro camel dorm snake context
  have built := built_as_read [camel, dorm, snake]
  have distinct : ([dorm, snake].map fun entry => KeyCase.snakeKey entry.1).Nodup := by decide
  have read := (built_as_read [dorm, snake]).2.2.1 distinct
  have reachable : Reachable context := reachable_of_entries [camel, dorm, snake]
  constructor
  · exact built.2.1 [camel, dorm] "first_name" (.string "Mia") [] rfl nofun
  constructor
  · have last : ∀ later ∈ [snake], KeyCase.snakeKey later.1 ≠ KeyCase.snakeKey "dorm.roomNo" :=
      List.forall_mem_singleton.mpr (by decide)
    exact built.2.1 [camel] "dorm.roomNo" _ [snake] rfl last
  constructor
  · exact read.1 [snake, dorm] (.swap dorm snake [])
  constructor
  · exact read.2
  constructor
  · exact reachable
  · exact built.2.2.2 context reachable "dorm" (.bool true) "FirstName".toList (by decide)

end Context

end SchoolNotice
