import SchoolNotice.Proofs.Context.Enrichment

/-!
What a page shows of the school once the context was completed from a profile: the school's own texts first, the
texts of the profile where it has none, and nothing where something stands that is no text.
-/

namespace SchoolNotice

open SchoolNotice.Text

namespace Context

/-- What stands in a field of the school: a text that is not empty, nothing that counts, or a value that is no text. -/
inductive Entry where
  | own (text : String)
  | missing
  | other
deriving DecidableEq, Repr

namespace Entry

def ofValue : Option Json → Entry
  | none => .missing
  | some .null => .missing
  | some (.string text) => if text = "" then .missing else .own text
  | some _ => .other

/-- What is shown of a field, given what is known of it from elsewhere. -/
def shown (known : Option String) : Entry → Option String
  | own text => some text
  | missing => known
  | other => none

theorem of_text {text : String} (filled : text ≠ "") : ofValue (some (.string text)) = .own text :=
  if_neg filled

theorem of_value_missing_iff (value : Option Json) :
    ofValue value = .missing ↔ isMissing value = true := by
  cases value with
  | none => exact iff_of_true rfl rfl
  | some value =>
      cases value with
      | null => exact iff_of_true rfl rfl
      | string text =>
          by_cases empty : text = ""
          · subst empty
            exact iff_of_true rfl rfl
          · rw [of_text empty, present_of_text empty]
            exact iff_of_false nofun Bool.false_ne_true
      | _ => exact iff_of_false nofun Bool.false_ne_true

theorem is_some_shown (entry : Entry) (known : Option String) :
    (entry.shown known).isSome = true ↔
      entry ≠ .other ∧ (entry = .missing → known.isSome = true) := by
  cases entry with
  | own text => exact iff_of_true rfl ⟨nofun, nofun⟩
  | missing => exact ⟨fun there => ⟨nofun, fun _ => there⟩, fun both => both.2 rfl⟩
  | other => exact iff_of_false nofun fun both => both.1 rfl

end Entry

def entry (context : Context) (field : String) : Entry :=
  Entry.ofValue (Json.Members.get? field context.school)

theorem school_path : ∀ field ∈ brandingFields,
    foldedKeys ("school.".toList ++ field.toList) = ["school".toList, field.toList] := by
  decide

theorem school_text {context : Context} (folded : Json.FoldedMembers context.members) {field : String}
    (known : field ∈ brandingFields) :
    context.schoolText? field = (context.entry field).shown none := by
  rw [schoolText?, text?, resolve_eq_walk folded, school_path field known, walk_school,
    String.ofList_toList, entry]
  cases Json.Members.get? field context.school with
  | none => rfl
  | some value =>
      cases value with
      | string text =>
          by_cases empty : text = ""
          · subst empty
            rfl
          · rw [Entry.of_text empty]
            exact if_neg empty
      | _ => rfl

theorem shown_enriched (context : Context) (profile : Profile) (field : String) :
    ((context.withMissingSchoolFields profile).entry field).shown none =
      (context.entry field).shown (profile.text? field) := by
  rw [entry, entry, get_enriched]
  generalize Json.Members.get? field context.school = value
  cases taken : profile.text? field with
  | none => rw [completed_none]
  | some text =>
      cases missing : isMissing value with
      | true =>
          have filled := Profile.text_ne_empty taken
          rw [completed_missing text missing, Entry.of_text filled, (Entry.of_value_missing_iff value).mpr missing]
          rfl
      | false =>
          have present : Entry.ofValue value ≠ .missing := fun absent =>
            Bool.eq_false_iff.mp missing ((Entry.of_value_missing_iff value).mp absent)
          rw [completed_present (some text) missing]
          cases standing : Entry.ofValue value with
          | own text => rfl
          | missing => exact absurd standing present
          | other => rfl

theorem school_text_enriched {context : Context} (folded : Json.FoldedMembers context.members)
    (profile : Profile) {field : String} (known : field ∈ brandingFields) :
    (context.withMissingSchoolFields profile).schoolText? field =
      (context.entry field).shown (profile.text? field) := by
  rw [school_text (folded_with_missing_school_fields folded profile) known, shown_enriched]

theorem branding_of_folded {context : Context} (folded : Json.FoldedMembers context.members)
    (profile : Profile) :
    (context.withMissingSchoolFields profile).branding =
      { tenantName := ((context.entry "name").shown (profile.text? "name")).getD ""
        logoUrl := (context.entry "logo_url").shown (profile.text? "logo_url")
        address := (context.entry "address").shown (profile.text? "address")
        phone := (context.entry "phone").shown (profile.text? "phone")
        email := (context.entry "email").shown (profile.text? "email") } := by
  rw [branding]
  congr 1
  · rw [school_text_enriched folded profile (by decide)]
  · exact school_text_enriched folded profile (by decide)
  · exact school_text_enriched folded profile (by decide)
  · exact school_text_enriched folded profile (by decide)
  · exact school_text_enriched folded profile (by decide)

/-- A page that is filled from a context and a profile shows of each field of the school the text that the context has
for it; where the context has none, the text of the profile; and nothing where the context has a value that is no
text. So every field is shown exactly if none is of the last kind and the profile has a text for each that the context
lacks; and from a profile alone the page shows what the profile has. -/
theorem branding_enriched {context : Context} (reachable : Reachable context) (profile : Profile) :
    let enriched := context.withMissingSchoolFields profile
    let shown := fun field => (context.entry field).shown (profile.text? field)
    enriched.branding =
      { tenantName := (shown "name").getD ""
        logoUrl := shown "logo_url"
        address := shown "address"
        phone := shown "phone"
        email := shown "email" } ∧
    (enriched.hasCompleteBranding = true ↔ ∀ field ∈ brandingFields,
      context.entry field ≠ .other ∧
        (context.entry field = .missing → (profile.text? field).isSome = true)) ∧
    (ofProfile profile).branding = Branding.ofProfile profile := by
  have folded := folded_of_reachable reachable
  intro enriched shown
  constructor
  · exact branding_of_folded folded profile
  constructor
  · rw [hasCompleteBranding, List.all_eq_true]
    apply forall₂_congr
    intro field known
    rw [school_text_enriched folded profile known]
    exact Entry.is_some_shown (context.entry field) (profile.text? field)
  · have nothing : Json.FoldedMembers empty.members := trivial
    exact branding_of_folded nothing profile

theorem branding_enriched_mixed :
    let context := ofJson (.ofMembers [("school", .ofMembers [("name", .string "South"),
      ("address", .string ""), ("email", .null), ("phone", .array [.string "02"])])])
    let north := ((Profile.ofName ⟨"North", by decide, by decide⟩).withAddress " Hill 1 ").withPhone "03"
    let enriched := context.withMissingSchoolFields north
    Reachable context ∧
      enriched.branding =
        { tenantName := "South"
          logoUrl := none
          address := some "Hill 1"
          phone := none
          email := none } ∧
      enriched.hasCompleteBranding = false ∧
      (ofProfile north).branding = Branding.ofProfile north := by
  intro context north enriched
  have reachable : Reachable context := .ofJson _
  obtain ⟨shown, complete, alone⟩ := branding_enriched reachable north
  constructor
  · exact reachable
  constructor
  · exact shown
  constructor
  · apply Bool.eq_false_iff.mpr
    intro all
    exact (complete.mp all "phone" (by decide)).1 rfl
  · exact alone

end Context

end SchoolNotice
