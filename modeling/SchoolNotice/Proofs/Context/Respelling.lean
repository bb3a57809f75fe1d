import Mathlib.Data.List.Nodup
import SchoolNotice.Notice.Email
import SchoolNotice.Proofs.Context.Folding

/-!
Either spelling of a key leads to the same context. In data without capitals some keys may be written in camel
case: folding takes each of them back, and no two of them fall together, so that what is read is the data as it
was.
-/

namespace SchoolNotice

open SchoolNotice.Text

namespace Json

namespace Members

theorem keys_perm {members others : Members} (perm : List.Perm members others) :
    List.Perm members.keys others.keys :=
  perm.map Prod.fst

theorem distinct_of_sorted {members : Members} (sorted : Sorted members) : members.keys.Nodup := by
  apply List.Pairwise.imp _ sorted
  intro first second before same
  rw [same] at before
  exact String.lt_irrefl second before

theorem eq_of_perm {members others : Members} (sorted : Sorted members) (also : Sorted others)
    (perm : List.Perm members others) : members = others := by
  apply List.Perm.eq_of_pairwise _ (List.pairwise_map.mp sorted) (List.pairwise_map.mp also) perm
  intro first second _ _ before after
  exact absurd (String.lt_trans before after) (String.lt_irrefl first.1)

theorem insert_perm {key : String} {value : Json} {members : Members} (fresh : key ∉ members.keys) :
    List.Perm (insert key value members) ((key, value) :: members) := by
  induction members with
  | nil => exact .refl _
  | cons first rest induction =>
      have different : first.1 ≠ key := fun same => fresh (same ▸ List.mem_cons_self)
      have absent : key ∉ keys rest := fun inside => fresh (List.mem_cons_of_mem first.1 inside)
      unfold insert
      split
      · exact .refl _
      · exact ((induction absent).cons first).trans (.swap (key, value) first rest)

theorem get_eq_none_iff {key : String} {members : Members} :
    get? key members = none ↔ key ∉ members.keys := by
  induction members with
  | nil => exact iff_of_true rfl List.not_mem_nil
  | cons first rest induction =>
      rw [get?, keys, List.map_cons, List.mem_cons, not_or]
      split
      next same => exact iff_of_false (Option.some_ne_none first.2) fun fresh => fresh.1 same.symm
      next different =>
        rw [induction]
        exact ⟨fun fresh => ⟨Ne.symm different, fresh⟩, And.right⟩

theorem insert_absent_of_fresh {key : String} {value : Json} {members : Members}
    (fresh : key ∉ members.keys) : insertAbsent key value members = insert key value members := by
  rw [insertAbsent, get_eq_none_iff.mpr fresh]
  rfl

/-- Under keys that are all new, whatever is put in is added to what was there. -/
theorem put_all_perm {put : Members → String × Json → Members}
    (adds : ∀ members pair, pair.1 ∉ keys members → List.Perm (put members pair) (pair :: members))
    {pairs members : Members} (distinct : (members ++ pairs).keys.Nodup) :
    List.Perm (pairs.foldl put members) (members ++ pairs) := by
  induction pairs generalizing members with
  | nil => rw [List.append_nil, List.foldl_nil]
  | cons first rest induction =>
      have front : List.Perm (first :: (members ++ rest)) (members ++ first :: rest) :=
        List.perm_middle.symm
      have apart := (keys_perm front).nodup_iff.mpr distinct
      have fresh : first.1 ∉ members.keys := by
        intro inside
        apply (List.nodup_cons.mp apart).1
        rw [List.map_append]
        exact List.mem_append_left (keys rest) inside
      have added := (adds members first fresh).append_right rest
      exact (induction ((keys_perm added).nodup_iff.mpr apart)).trans (added.trans front)

theorem of_list_perm {pairs : Members} (distinct : pairs.keys.Nodup) :
    List.Perm (ofList pairs) pairs :=
  put_all_perm (fun _ _ fresh => insert_perm fresh) distinct

def snakeMember (member : String × Json) : String × Json := (KeyCase.snakeKey member.1, member.2)

theorem keys_snake_members (members : Members) :
    keys (members.map snakeMember) = members.keys.map KeyCase.snakeKey := by
  rw [keys, keys, List.map_map, List.map_map]
  rfl

/-- The members under their keys in snake case, those first that keep their key. -/
def laidOut (members : Members) : Members :=
  members.filter (fun member => KeyCase.snakeKey member.1 == member.1) ++
    (members.filter fun member => KeyCase.snakeKey member.1 != member.1).map snakeMember

theorem laid_out_perm (members : Members) :
    List.Perm (laidOut members) (members.map snakeMember) := by
  let kept := members.filter fun member => KeyCase.snakeKey member.1 == member.1
  let changed := members.filter fun member => KeyCase.snakeKey member.1 != member.1
  have still : kept.map snakeMember = kept := by
    have same : ∀ member ∈ kept, snakeMember member = id member :=
      fun member inside => Prod.ext (eq_of_beq (List.mem_filter.mp inside).2) rfl
    rw [List.map_congr_left same, List.map_id]
  have parts : List.Perm (kept ++ changed) members := List.filter_append_perm _ members
  have mapped := parts.map snakeMember
  rw [List.map_append, still] at mapped
  exact mapped

/-- If no two keys fall together, every member is only renamed. -/
theorem renamed_perm {members : Members} (distinct : (keys (members.map snakeMember)).Nodup) :
    List.Perm (renamed members) (members.map snakeMember) := by
  let kept := members.filter fun member => KeyCase.snakeKey member.1 == member.1
  let changed := members.filter fun member => KeyCase.snakeKey member.1 != member.1
  have put : List.Perm ((changed.map snakeMember).foldl
      (fun folded pair => insertAbsent pair.1 pair.2 folded) kept) (laidOut members) := by
    apply put_all_perm
    · intro folded pair fresh
      rw [insert_absent_of_fresh fresh]
      exact insert_perm fresh
    · exact (keys_perm (laid_out_perm members)).nodup_iff.mpr distinct
  rw [List.foldl_map] at put
  exact put.trans (laid_out_perm members)

theorem sorted_insert_absent {members : Members} (sorted : Sorted members) (key : String)
    (value : Json) : Sorted (insertAbsent key value members) := by
  unfold insertAbsent
  split
  · exact sorted
  · exact sorted_insert key value sorted

theorem sorted_renamed {members : Members} (sorted : Sorted members) : Sorted (renamed members) := by
  apply renamed_keeps
  · exact List.Pairwise.sublist (List.filter_sublist.map Prod.fst) sorted
  · intro folded held member _
    exact sorted_insert_absent held (KeyCase.snakeKey member.1) member.2

end Members

theorem keys_fold_members (members : Members) :
    Members.keys (foldMembers members) = members.keys := by
  rw [fold_members_eq, Members.keys, List.map_map]
  rfl

/-- If folding the values and renaming the keys leads to the members of an object, in whatever order, then none of
them was lost on the way into another object. -/
theorem renamed_fold_of_perm {members others : Members} (sorted : Members.Sorted members)
    (perm : List.Perm ((foldMembers others).map Members.snakeMember) members) :
    Members.renamed (foldMembers (Members.ofList others)) = members := by
  have distinct : (Members.keys others).Nodup := by
    have renamed : Members.keys ((foldMembers others).map Members.snakeMember) =
        (Members.keys others).map KeyCase.snakeKey := by
      rw [Members.keys_snake_members, keys_fold_members]
    have apart := (Members.keys_perm perm).nodup_iff.mpr (Members.distinct_of_sorted sorted)
    rw [renamed] at apart
    exact apart.of_map KeyCase.snakeKey
  -- The object holds its members in an order of its own, which the order of the keys undoes at the end.
  have folded : List.Perm (foldMembers (Members.ofList others)) (foldMembers others) := by
    rw [fold_members_eq, fold_members_eq]
    exact (Members.of_list_perm distinct).map _
  have spelled := (folded.map Members.snakeMember).trans perm
  have apart := (Members.keys_perm spelled).nodup_iff.mpr (Members.distinct_of_sorted sorted)
  have order : Members.Sorted (foldMembers (Members.ofList others)) := by
    rw [Members.Sorted, keys_fold_members]
    exact Members.sorted_of_list others
  apply Members.eq_of_perm (Members.sorted_renamed order) sorted
  exact (Members.renamed_perm apart).trans spelled

mutual

/-- Folding takes data back whose keys were written in camel case. -/
theorem fold_respelled {data other : Json} (respelled : Respelled data other)
    (canonical : data.Canonical) (plain : data.AllKeys fun key => KeyCase.Plain key.toList) :
    foldKeys other = data := by
  -- The recursion is on the data; how its keys are spelled is taken apart along with it.
  cases data with
  | object members =>
      cases respelled with
      | @object _ others inside =>
          have same := fold_respelled_members inside canonical.2 plain
          rw [ofMembers, foldKeys, renamed_fold_of_perm canonical.1 (.of_eq same)]
  | array items =>
      cases respelled with
      | @array _ others inside => rw [foldKeys, fold_respelled_items inside canonical plain]
  | _ =>
      cases respelled
      rfl

theorem fold_respelled_items {items others : List Json} (respelled : RespelledItems items others)
    (canonical : CanonicalItems items)
    (plain : AllKeysItems (fun key => KeyCase.Plain key.toList) items) :
    foldItems others = items := by
  cases items with
  | nil =>
      cases respelled
      rfl
  | cons item rest =>
      cases respelled with
      | cons first behind =>
          rw [foldItems, fold_respelled first canonical.1 plain.1]
          rw [fold_respelled_items behind canonical.2 plain.2]

theorem fold_respelled_members {members others : Members}
    (respelled : RespelledMembers members others) (canonical : CanonicalMembers members)
    (plain : AllKeysMembers (fun key => KeyCase.Plain key.toList) members) :
    (foldMembers others).map Members.snakeMember = members := by
  match members, respelled with
  | [], .nil => rfl
  | (key, value) :: rest, .keep first behind =>
      have small := (KeyCase.snake_key_eq_iff key).mpr plain.1.small
      rw [foldMembers, List.map_cons, fold_respelled_members behind canonical.2 plain.2.2]
      rw [Members.snakeMember, small, fold_respelled first canonical.1 plain.2.1]
  | (key, value) :: rest, .respell first behind =>
      have back := KeyCase.snake_key_camel_key plain.1
      rw [foldMembers, List.map_cons, fold_respelled_members behind canonical.2 plain.2.2]
      rw [Members.snakeMember, back, fold_respelled first canonical.1 plain.2.1]

end

end Json

namespace Context

structure SameUse (context other : Context) : Prop where
  render : ∀ template, Template.render context template = Template.render other template
  rendered : ∀ subject body theme,
    Rendered.ofPatterns subject body theme context = Rendered.ofPatterns subject body theme other
  resolve : ∀ path, context.resolve? path = other.resolve? path
  complete : context.hasCompleteBranding = other.hasCompleteBranding
  branding : context.branding = other.branding

theorem SameUse.refl (context : Context) : SameUse context context :=
  ⟨fun _ => rfl, fun _ _ _ => rfl, fun _ => rfl, rfl, rfl⟩

/-- Data without capitals, and without an underscore and a small letter at the start of a key, is taken into a
context as it is, and with whichever of its keys in camel case it is taken in as the same. -/
theorem of_json_respelled {members : Json.Members} {data : Json}
    (canonical : (Json.object members).Canonical)
    (plain : (Json.object members).AllKeys fun key => KeyCase.Plain key.toList)
    (respelled : (Json.object members).Respelled data) :
    ofJson data = ofJson (.object members) ∧
      (ofJson (.object members)).toJson = .object members ∧
        SameUse (ofJson data) (ofJson (.object members)) := by
  have taken := Json.fold_respelled respelled canonical plain
  have settled := Json.fold_keys_twice data
  rw [taken] at settled
  have same : ofJson data = ofJson (.object members) := by
    rw [ofJson, taken, ofJson, settled]
  constructor
  · exact same
  · rw [same, ofJson, settled]
    exact ⟨rfl, .refl _⟩

theorem of_json_respelled_mixed :
    let plain := Json.object [
      ("class_1a", .null),
      ("first__pupils", .array [.object [("__left", .bool true), ("last_", .string "Sato")]]),
      ("あ_name", .string "Ana")]
    let mixed := Json.object [
      ("class_1a", .null),
      ("first_Pupils", .array [.object [("_Left", .bool true), ("last_", .string "Sato")]]),
      ("あName", .string "Ana")]
    ofJson mixed = ofJson plain ∧ (ofJson mixed).toJson = plain := by
  intro plain mixed
  have pupil : Json.Respelled (.object [("__left", .bool true), ("last_", .string "Sato")])
      (.object [("_Left", .bool true), ("last_", .string "Sato")]) :=
    .object (.respell (.bool true) (.keep (.string "Sato") .nil))
  have respelled : plain.Respelled mixed :=
    .object (.keep .null (.respell (.array (.cons pupil .nil)) (.respell (.string "Ana") .nil)))
  have canonical : plain.Canonical := by
    simp only [plain, Json.Canonical, Json.CanonicalItems, Json.CanonicalMembers,
      Json.Members.Sorted, Json.Members.keys]
    decide
  have keys : plain.AllKeys fun key => KeyCase.Plain key.toList := by
    simp only [plain, Json.AllKeys, Json.AllKeysItems, Json.AllKeysMembers]
    decide
  have same := of_json_respelled canonical keys respelled
  rw [same.1]
  exact ⟨rfl, same.2.1⟩

end Context

end SchoolNotice
