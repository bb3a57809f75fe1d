import SchoolNotice.Proofs.Context.Walking

/-!
Completing the school from a profile. A field that is absent, null or empty takes the text that the profile has for
it, and all else stays. What was taken is a text that is not empty, so completing again, from whatever profile,
leaves it.
-/

namespace SchoolNotice

open SchoolNotice.Text

namespace Profile

def text? (profile : Profile) : String → Option String
  | "name" => some profile.name.text
  | "address" => profile.address.map Filled.text
  | "email" => profile.email.map Filled.text
  | "phone" => profile.phone.map Filled.text
  | "logo_url" => profile.logoUrl.map Filled.text
  | _ => none

theorem lookup_fields (profile : Profile) (key : String) :
    (profile.fields.lookup key).join = profile.text? key := by
  fun_cases text? profile key with
  | case1 | case2 | case3 | case4 | case5 => rfl
  | case6 key noName noAddress noEmail noPhone noLogo =>
      have absent : profile.fields.lookup key = none := by
        rw [List.lookup_eq_none_iff]
        simpa [fields] using ⟨noName, noAddress, noEmail, noPhone, noLogo⟩
      rw [absent]
      rfl

theorem text_ne_empty {profile : Profile} {key text : String} (taken : profile.text? key = some text) :
    text ≠ "" := by
  have optional {value : Option Filled} (taken : value.map Filled.text = some text) : text ≠ "" := by
    obtain ⟨filled, _, rfl⟩ := Option.map_eq_some_iff.mp taken
    exact filled.filled
  unfold text? at taken
  split at taken
  case h_1 =>
    cases taken
    exact profile.name.filled
  case h_2 | h_3 | h_4 | h_5 => exact optional taken
  case h_6 => cases taken

end Profile

namespace Context

/-- A value as it stands unless it is missing, and else the text if there is one. -/
def completed (text : Option String) (value : Option Json) : Option Json :=
  if isMissing value then (text.map Json.string).or value else value

theorem completed_none (value : Option Json) : completed none value = value := by
  rw [completed, Option.map_none, Option.none_or, ite_self]

theorem completed_present (text : Option String) {value : Option Json}
    (present : isMissing value = false) : completed text value = value := by
  rw [completed, present, if_neg Bool.false_ne_true]

theorem completed_missing (text : String) {value : Option Json} (missing : isMissing value = true) :
    completed (some text) value = some (.string text) := by
  rw [completed, missing, if_pos rfl, Option.map_some, Option.some_or]

theorem present_of_text {text : String} (filled : text ≠ "") :
    isMissing (some (.string text)) = false :=
  beq_eq_false_iff_ne.mpr filled

theorem get_fill_field (school : Json.Members) (name : String) (text : Option String) (key : String) :
    Json.Members.get? key (fillField school (name, text)) =
      if name = key then completed text (Json.Members.get? key school)
      else Json.Members.get? key school := by
  cases text with
  | none => rw [fillField, completed_none, ite_self]
  | some text =>
      cases missing : isMissing (Json.Members.get? name school) with
      | true =>
          have put : fillField school (name, some text) =
              Json.Members.insert name (.string text) school := if_pos missing
          rw [put]
          split
          next same =>
            rw [← same, completed_missing text missing]
            exact Json.Members.get_insert_self name (.string text) school
          next different => exact Json.Members.get_insert_ne different (.string text) school
      | false =>
          have left : fillField school (name, some text) = school :=
            if_neg (Bool.eq_false_iff.mp missing)
          rw [left]
          split
          next same => rw [← same, completed_present (some text) missing]
          next => rfl

theorem get_fill_fields {fields : List (String × Option String)}
    (distinct : (fields.map Prod.fst).Nodup) (school : Json.Members) (key : String) :
    Json.Members.get? key (fields.foldl fillField school) =
      completed (fields.lookup key).join (Json.Members.get? key school) := by
  induction fields generalizing school with
  | nil => exact (completed_none _).symm
  | cons first rest induction =>
      obtain ⟨fresh, behind⟩ := List.nodup_cons.mp distinct
      rw [List.foldl_cons, induction behind, get_fill_field, List.lookup_cons]
      by_cases same : first.1 = key
      · have absent : rest.lookup key = none := by
          rw [List.lookup_eq_none_iff]
          intro other inside
          rw [bne_iff_ne, ← same]
          exact fun again => fresh (again ▸ List.mem_map_of_mem inside)
        rw [if_pos same, absent, Option.join_none, completed_none, same, beq_self_eq_true]
        rfl
      · rw [if_neg same, beq_eq_false_iff_ne.mpr (Ne.symm same)]

theorem school_enriched (context : Context) (profile : Profile) :
    (context.withMissingSchoolFields profile).school = profile.fields.foldl fillField context.school := by
  rw [withMissingSchoolFields, school, Json.Members.get_insert_self]

theorem get_enriched (context : Context) (profile : Profile) (key : String) :
    Json.Members.get? key (context.withMissingSchoolFields profile).school =
      completed (profile.text? key) (Json.Members.get? key context.school) := by
  have distinct : (profile.fields.map Prod.fst).Nodup := by
    rw [profile_keys]
    decide
  rw [school_enriched, get_fill_fields distinct, Profile.lookup_fields]

/-- What is still missing after it was completed has no text in the profile. -/
theorem text_of_missing {text : Option String} (filled : ∀ taken, text = some taken → taken ≠ "")
    {value : Option Json} (missing : isMissing (completed text value) = true) : text = none := by
  rw [Option.eq_none_iff_forall_ne_some]
  intro taken same
  cases before : isMissing value with
  | true =>
      rw [same, completed_missing taken before, present_of_text (filled taken same)] at missing
      cases missing
  | false =>
      rw [completed_present text before, before] at missing
      cases missing

theorem fill_fields_settled {fields : List (String × Option String)} {school : Json.Members}
    (settled : ∀ field ∈ fields, isMissing (Json.Members.get? field.1 school) = true → field.2 = none) :
    fields.foldl fillField school = school := by
  induction fields with
  | nil => rfl
  | cons first rest induction =>
      obtain ⟨name, text⟩ := first
      obtain ⟨now, later⟩ := List.forall_mem_cons.mp settled
      have left : fillField school (name, text) = school := by
        unfold fillField
        cases text with
        | none => rfl
        | some text => exact if_neg fun missing => nomatch now missing
      rw [List.foldl_cons, left, induction later]

theorem fields_text (profile : Profile) :
    ∀ field ∈ profile.fields, field.2 = profile.text? field.1 := by
  simp [Profile.fields, Profile.text?]

/-- Completing a second time from one profile changes nothing. -/
theorem enrich_again (context : Context) (profile : Profile) :
    (context.withMissingSchoolFields profile).withMissingSchoolFields profile =
      context.withMissingSchoolFields profile := by
  let enriched := context.withMissingSchoolFields profile
  have settled : profile.fields.foldl fillField enriched.school = enriched.school := by
    apply fill_fields_settled
    intro field inside missing
    rw [get_enriched] at missing
    rw [fields_text profile field inside]
    exact text_of_missing (fun _ => Profile.text_ne_empty) missing
  have members : enriched.members =
      Json.Members.insert "school" (.object enriched.school) context.members := by
    rw [school_enriched]
    rfl
  calc enriched.withMissingSchoolFields profile
      = ⟨Json.Members.insert "school" (.object enriched.school) enriched.members⟩ := by
        rw [withMissingSchoolFields, settled]
    _ = ⟨enriched.members⟩ := by rw [members, Json.Members.insert_again]

/-- The keys below the school lead to its members. -/
theorem walk_school (context : Context) (key : List Char) (rest : List (List Char)) :
    Json.walk ("school".toList :: key :: rest) context.toJson =
      (Json.Members.get? (String.ofList key) context.school).bind (Json.walk rest) := by
  rw [toJson, Json.walk, String.ofList_toList, school]
  cases Json.Members.get? "school" context.members with
  | none => rfl
  | some value => cases value <;> rfl

theorem present_of_walk {keys : List (List Char)} {start value : Json}
    (led : Json.walk keys start = some value) (present : isMissing (some value) = false) :
    isMissing (some start) = false := by
  cases keys with
  | nil =>
      cases led
      exact present
  | cons key rest =>
      cases start with
      | object members => rfl
      | _ => cases led

/-- What a path finds below the school, unless it is null or empty, it finds there after the school is completed. -/
theorem resolve_kept {context : Context} (reachable : Reachable context) (profile : Profile)
    {path key : List Char} {rest : List (List Char)}
    (below : foldedKeys path = "school".toList :: key :: rest) {value : Json}
    (found : context.resolve? path = some value) (present : isMissing (some value) = false) :
    (context.withMissingSchoolFields profile).resolve? path = some value := by
  have folded := folded_of_reachable reachable
  rw [resolve_eq_walk folded, below, walk_school, Option.bind_eq_some_iff] at found
  obtain ⟨start, there, led⟩ := found
  have kept : Json.Members.get? (String.ofList key) (context.withMissingSchoolFields profile).school =
      some start := by
    rw [get_enriched, there]
    exact completed_present _ (present_of_walk led present)
  have enriched := folded_with_missing_school_fields folded profile
  rw [resolve_eq_walk enriched, below, walk_school, kept]
  exact led

/-- Completing a context from a profile changes nothing but its school, and there it puts the text of the profile into
the fields that are absent, null or empty. So it keeps whatever is found below the school and is neither; it has done
all it can after one time; and another profile then changes no field that was filled. -/
theorem enriched_where_missing {context : Context} (reachable : Reachable context) (profile : Profile) :
    let enriched := context.withMissingSchoolFields profile
    (∀ key, key ≠ "school" →
      Json.Members.get? key enriched.members = Json.Members.get? key context.members) ∧
    (∃ school, Json.Members.get? "school" enriched.members = some (.object school) ∧
      ∀ key, Json.Members.get? key school =
        completed (profile.text? key) (Json.Members.get? key context.school)) ∧
    (∀ path key rest value, foldedKeys path = "school".toList :: key :: rest →
      context.resolve? path = some value → isMissing (some value) = false →
        enriched.resolve? path = some value) ∧
    enriched.withMissingSchoolFields profile = enriched ∧
    (∀ other key text, isMissing (Json.Members.get? key context.school) = true →
      profile.text? key = some text →
        Json.Members.get? key (enriched.withMissingSchoolFields other).school = some (.string text)) := by
  intro enriched
  constructor
  · intro key different
    exact Json.Members.get_insert_ne (Ne.symm different) _ context.members
  constructor
  · refine ⟨enriched.school, ?_, get_enriched context profile⟩
    rw [school_enriched]
    exact Json.Members.get_insert_self "school" _ context.members
  constructor
  · intro path key rest value below found present
    exact resolve_kept reachable profile below found present
  constructor
  · exact enrich_again context profile
  · intro other key text missing taken
    have filled : Json.Members.get? key enriched.school = some (.string text) := by
      rw [get_enriched, taken, completed_missing text missing]
    rw [get_enriched, filled]
    exact completed_present _ (present_of_text (Profile.text_ne_empty taken))

theorem enriched_where_missing_mixed :
    let context := ofJson (.ofMembers [("student", .string "Ana"), ("school", .ofMembers [
      ("address", .ofMembers [("cityName", .string "Kobe")]), ("name", .string ""), ("phone", .null)])])
    let north := (Profile.ofName ⟨"North", by decide, by decide⟩).withPhone " 03 " |>.withAddress "Hill 1"
    let south := (Profile.ofName ⟨"South", by decide, by decide⟩).withEmail "office@south.example"
    let enriched := context.withMissingSchoolFields north
    Reachable context ∧
      Json.Members.get? "student" enriched.members = some (.string "Ana") ∧
      enriched.resolve? "school.address.cityName".toList = some (.string "Kobe") ∧
      enriched.withMissingSchoolFields north = enriched ∧
      Json.Members.get? "name" (enriched.withMissingSchoolFields south).school = some (.string "North") ∧
      Json.Members.get? "phone" (enriched.withMissingSchoolFields south).school = some (.string "03") := by
  intro context north south enriched
  have reachable : Reachable context := .ofJson _
  obtain ⟨beside, _, kept, again, filled⟩ := enriched_where_missing reachable north
  constructor
  · exact reachable
  constructor
  · exact beside "student" (by decide)
  constructor
  · exact kept "school.address.cityName".toList "address".toList ["city_name".toList] (.string "Kobe")
      (by decide) rfl rfl
  constructor
  · exact again
  constructor
  · exact filled south "name" "North" rfl rfl
  · exact filled south "phone" "03" rfl rfl

end Context

end SchoolNotice
