import SchoolNotice.Json.Written
import SchoolNotice.Proofs.Context.Folding

/-!
The contexts that can be built. Data comes into a context as a whole, under one key or as a tenant's profile, and
in each of these ways its keys are folded; so whatever was done, a context holds what would be read back from it.
-/

namespace SchoolNotice

open SchoolNotice.Text

namespace Context

inductive Reachable : Context → Prop where
  | empty : Reachable empty
  | ofJson (data : Json) : Reachable (ofJson data)
  /-- From data as it was written, at some depth. -/
  | read {depth : Nat} {written : Json.Written} {data : Json}
      (meaning : written.toJson? depth = some data) : Reachable (Context.ofJson data)
  | insert {context : Context} (before : Reachable context) (key : String) (value : Json) :
      Reachable (context.insert key value)
  | withMissingSchoolFields {context : Context} (before : Reachable context) (profile : Profile) :
      Reachable (context.withMissingSchoolFields profile)
  | ofProfile (profile : Profile) : Reachable (ofProfile profile)

theorem folded_of_json (data : Json) : Json.FoldedMembers (ofJson data).members := by
  have folded := Json.fold_keys_folded data
  unfold ofJson
  split
  · next members same =>
    rw [same] at folded
    exact folded
  · trivial

theorem folded_context_insert {context : Context} (folded : Json.FoldedMembers context.members)
    (key : String) (value : Json) : Json.FoldedMembers (context.insert key value).members :=
  Json.folded_insert (KeyCase.snake_key_small key) (Json.fold_keys_folded value) folded

theorem folded_school {context : Context} (folded : Json.FoldedMembers context.members) :
    Json.FoldedMembers context.school := by
  unfold school
  split
  · next members found => exact Json.all_keys_get folded found
  · trivial

theorem folded_fill_field {school : Json.Members} (folded : Json.FoldedMembers school)
    {field : String × Option String} (small : KeyCase.Small field.1.toList) :
    Json.FoldedMembers (fillField school field) := by
  unfold fillField
  split
  · exact folded
  · split
    · exact Json.folded_insert small trivial folded
    · exact folded

theorem profile_keys (profile : Profile) :
    profile.fields.map Prod.fst = ["name", "address", "email", "phone", "logo_url"] := rfl

theorem profile_fields_small (profile : Profile) :
    ∀ field ∈ profile.fields, KeyCase.Small field.1.toList := by
  have keys : ∀ key ∈ profile.fields.map Prod.fst, KeyCase.Small key.toList := by
    rw [profile_keys]
    decide
  intro field inside
  exact keys field.1 (List.mem_map_of_mem inside)

theorem folded_fill_fields {fields : List (String × Option String)}
    (small : ∀ field ∈ fields, KeyCase.Small field.1.toList) {school : Json.Members}
    (folded : Json.FoldedMembers school) : Json.FoldedMembers (fields.foldl fillField school) := by
  apply List.foldlRecOn _ _ folded
  intro filled held field inside
  exact folded_fill_field held (small field inside)

theorem folded_with_missing_school_fields {context : Context}
    (folded : Json.FoldedMembers context.members) (profile : Profile) :
    Json.FoldedMembers (context.withMissingSchoolFields profile).members := by
  have filled := folded_fill_fields (profile_fields_small profile) (folded_school folded)
  have small : KeyCase.Small "school".toList := by decide
  exact Json.folded_insert small filled folded

theorem folded_of_reachable {context : Context} (reachable : Reachable context) :
    Json.FoldedMembers context.members := by
  induction reachable with
  | empty => trivial
  | ofJson data | read => exact folded_of_json _
  | insert _ key value induction => exact folded_context_insert induction key value
  | withMissingSchoolFields _ profile induction =>
      exact folded_with_missing_school_fields induction profile
  | ofProfile profile =>
      have nothing : Json.FoldedMembers empty.members := trivial
      exact folded_with_missing_school_fields nothing profile

theorem of_json_of_folded {members : Json.Members} (folded : Json.FoldedMembers members) :
    ofJson (.object members) = ⟨members⟩ := by
  rw [ofJson, Json.fold_keys_of_folded (.object members) folded]

/-- A context that can be built is an object without a capital in any of its keys at any depth, and is read back
from its data as it is. -/
theorem reachable_settled {context : Context} (reachable : Reachable context) :
    (∃ members, context.toJson = .object members) ∧
      context.toJson.AllKeys (fun key => ∀ char ∈ key.toList, char.isUpper = false) ∧
        ofJson context.toJson = context := by
  have folded := folded_of_reachable reachable
  constructor
  · exact ⟨context.members, rfl⟩
  · exact ⟨folded, of_json_of_folded folded⟩

theorem reachable_settled_nested :
    let staff := Json.ofMembers [("staffList", .array [.ofMembers [("firstName", .string "Ana")]])]
    let leave := Json.ofMembers [("startDate", .string "4/1")]
    let north := Profile.ofName ⟨"North", by decide, by decide⟩
    let context := ((ofJson staff).insert "leaveRequest" leave).withMissingSchoolFields north
    Reachable context ∧
      context.toJson = .object [
        ("leave_request", .object [("start_date", .string "4/1")]),
        ("school", .object [("name", .string "North")]),
        ("staff_list", .array [.object [("first_name", .string "Ana")]])] ∧
      ofJson context.toJson = context := by
  intro staff leave north context
  have reachable : Reachable context :=
    (Reachable.ofJson staff).insert "leaveRequest" leave |>.withMissingSchoolFields north
  have settled := reachable_settled reachable
  exact ⟨reachable, rfl, settled.2.2⟩

end Context

end SchoolNotice
