import SchoolNotice.Proofs.Delivery.Growth

/-!
What comes before the mail. Completing a context and choosing a template add nothing to the office, and
what they answer depends on its setup alone, unless the deliveries were cancelled.
-/

namespace SchoolNotice

open Office (Grew)

namespace Dispatcher

section Answers

variable {σ : Type} [Services σ] (dispatcher : Dispatcher) (notice : Notice) (context : Context)
  (state : σ)

theorem enrich_heeding (tenant : Uuid) :
    (Services.cancelled state = true ∧
        enrich true tenant context state = (.error .cancelled, state)) ∨
      enrich true tenant context state = enrich false tenant context state := by
  unfold enrich
  by_cases complete : context.hasCompleteBranding
  · right
    simp only [complete, if_true]
  · by_cases stopped : Services.cancelled state
    · left
      simp [complete, stopped]
    · right
      simp [complete, stopped]

theorem compose_heeding :
    (Services.cancelled state = true ∧
        dispatcher.compose true notice context state = (.error .cancelled, state)) ∨
      dispatcher.compose true notice context state =
        dispatcher.compose false notice context state := by
  unfold compose
  by_cases stopped : Services.cancelled state
  · left
    simp [stopped]
  · right
    simp [stopped]

theorem prepare_heeding :
    (dispatcher.prepare true notice context state).1 = .error .cancelled ∨
      dispatcher.prepare true notice context state =
        dispatcher.prepare false notice context state := by
  unfold prepare
  rcases enrich_heeding context state notice.tenant with ⟨_, stopped⟩ | same
  · left
    rw [stopped]
  · rw [same]
    rcases enrich false notice.tenant context state with ⟨error | completed, next⟩
    · right
      rfl
    · rcases compose_heeding dispatcher notice completed next with ⟨_, stopped⟩ | same
      · left
        exact congrArg Prod.fst stopped
      · right
        exact same

/-- A context is completed if the directory has a profile, and else it stays as it is. -/
theorem enrich_answer (tenant : Uuid) :
    (enrich false tenant context state).1 = .ok
      (if context.hasCompleteBranding then context
      else match (Services.findProfile tenant state).1 with
        | .ok (some profile) => context.withMissingSchoolFields profile
        | _ => context) := by
  unfold enrich
  split
  · rfl
  · rcases Services.findProfile tenant state with ⟨error | _ | profile, next⟩ <;> rfl

theorem compose_answer :
    (dispatcher.compose false notice context state).1 =
      (dispatcher.select notice state).1.map fun selected => (selected.source,
        Rendered.ofPatterns selected.subject selected.body selected.theme context) := by
  unfold compose
  rcases dispatcher.select notice state with ⟨error | selected, next⟩ <;> rfl

theorem prepare_answer {completed : Context}
    (enriched : (enrich false notice.tenant context state).1 = .ok completed) :
    (dispatcher.prepare false notice context state).1 =
      (dispatcher.compose false notice completed
        (enrich false notice.tenant context state).2).1 := by
  unfold prepare
  rcases found : enrich false notice.tenant context state with ⟨answer, next⟩
  rw [found] at enriched
  cases enriched
  rfl

end Answers

variable (dispatcher : Dispatcher) (notice : Notice) (context : Context) (office : Office)

theorem grew_enrich (tenant : Uuid) :
    Grew [] [] office (enrich false tenant context office).2 := by
  have found := office.grew_find_profile tenant
  unfold enrich
  split
  · exact Grew.refl office
  · simp only [Bool.false_and, Bool.false_eq_true, if_false, Services.findProfile, Services.note]
    split
    · next same => rwa [same] at found
    · next same =>
      rw [same] at found
      exact found.then_quiet (Office.grew_note _ _)
    · next same =>
      rw [same] at found
      exact found.then_quiet (Office.grew_note _ _)

theorem enrich_same_setup {other : Office} (same : office.setup = other.setup) (tenant : Uuid) :
    (enrich false tenant context office).1 = (enrich false tenant context other).1 := by
  rw [enrich_answer, enrich_answer]
  have answer := congrArg (fun setup => (setup.findProfile tenant).1) same
  rw [show (Services.findProfile tenant office).1 = (Services.findProfile tenant other).1 from answer]

theorem grew_select : Grew [] [] office (dispatcher.select notice office).2 :=
  office.grew_find_active notice.tenant notice.kind

theorem grew_compose : Grew [] [] office (dispatcher.compose false notice context office).2 := by
  have selected := grew_select dispatcher notice office
  simp only [compose, Bool.false_and, Bool.false_eq_true, if_false]
  split
  · next same => rwa [same] at selected
  · next same =>
    rw [same] at selected
    exact selected.then_quiet (Office.grew_note _ _)

theorem grew_prepare : Grew [] [] office (dispatcher.prepare false notice context office).2 := by
  have enriched := grew_enrich context office notice.tenant
  unfold prepare
  split
  · next same => rwa [same] at enriched
  · next completed _ same =>
    rw [same] at enriched
    exact enriched.then_quiet (grew_compose dispatcher notice completed _)

theorem grew_preview : Grew [] [] office (dispatcher.preview notice context office).2 := by
  have prepared := grew_prepare dispatcher notice context office
  unfold preview
  split
  · next same => rwa [same] at prepared
  · next same =>
    rw [same] at prepared
    exact prepared.then_quiet (Office.grew_note _ _)

theorem compose_same_setup {other : Office} (same : office.setup = other.setup) :
    (dispatcher.compose false notice context office).1 =
      (dispatcher.compose false notice context other).1 := by
  rw [compose_answer, compose_answer]
  have answer := congrArg (fun setup => (dispatcher.select notice setup).1) same
  rw [show (dispatcher.select notice office).1 = (dispatcher.select notice other).1 from answer]

def draft (dispatcher : Dispatcher) (notice : Notice) (recipient : Recipient) (office : Office) :
    Except DeliveryError (Source × Email) :=
  match (dispatcher.prepare false notice recipient.context office).1 with
  | .ok (source, rendered) =>
      .ok (source, rendered.toEmail recipient.address dispatcher.sender)
  | .error error => .error error

theorem compose_error {error : DeliveryError}
    (failed : (dispatcher.compose false notice context office).1 = .error error) :
    (∃ cause, error = .templateLookup cause) ∨
      error = .templateNotFound notice.tenant notice.kind := by
  rw [compose_answer] at failed
  cases selected : (dispatcher.select notice office).1 with
  | ok template =>
      rw [selected] at failed
      cases failed
  | error early =>
      rw [selected] at failed
      cases failed
      simp only [select, Selected.choose] at selected
      split at selected
      · next cause _ =>
        cases selected
        exact .inl ⟨cause, rfl⟩
      · split at selected
        · cases selected
        · split at selected <;> cases selected
          exact .inr rfl

theorem draft_of_enriched (recipient : Recipient)
    (enriched : (enrich false notice.tenant recipient.context office).1 = .ok context) :
    dispatcher.draft notice recipient office =
      (dispatcher.compose false notice context office).1.map fun composed =>
        (composed.1, composed.2.toEmail recipient.address dispatcher.sender) := by
  have quiet := grew_enrich recipient.context office notice.tenant
  unfold draft
  rw [prepare_answer dispatcher notice recipient.context office enriched,
    compose_same_setup dispatcher notice context _ quiet.setup]
  cases (dispatcher.compose false notice context office).1 <;> rfl

theorem draft_error {recipient : Recipient} {error : DeliveryError}
    (failed : dispatcher.draft notice recipient office = .error error) :
    error ≠ .cancelled ∧ ∀ cause, error ≠ .transport cause := by
  have enriched := enrich_answer recipient.context office notice.tenant
  rw [draft_of_enriched dispatcher notice _ office recipient enriched] at failed
  cases composed : (dispatcher.compose false notice _ office).1 with
  | ok filled =>
      rw [composed] at failed
      cases failed
  | error early =>
      rw [composed] at failed
      cases failed
      rcases compose_error dispatcher notice _ office composed with ⟨cause, rfl⟩ | rfl
      · simp
      · simp

end Dispatcher

end SchoolNotice
