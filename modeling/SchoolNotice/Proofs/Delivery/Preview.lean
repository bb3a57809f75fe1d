import SchoolNotice.Proofs.Delivery.Balance
import SchoolNotice.Proofs.Delivery.Course
import SchoolNotice.Proofs.Delivery.Exits

/-!
A preview foretells a delivery. It shows what the delivery hands to the mailer, and it fails with the error with
which the delivery ends before the mailer is asked; that mail may fail is all that a preview cannot know. To say
what is handed over, a tray stands beside the services and keeps a copy of each mail.
-/

namespace SchoolNotice

open Services

/-- A state, and beside it a tray with a copy of every mail that was handed to the mailer. -/
structure Tray (σ : Type) where
  state : σ
  handed : List Email

namespace Tray

def ofState {σ : Type} (state : σ) : Tray σ := { state := state, handed := [] }

def Beside {σ : Type} (tray : Tray σ) (state : σ) : Prop := tray.state = state

variable {σ : Type} [Services σ]

instance : Services (Tray σ) where
  cancelled tray := cancelled tray.state
  note event tray := { tray with state := note event tray.state }
  now tray := now tray.state
  findProfile tenant tray :=
    let (answer, state) := findProfile tenant tray.state
    (answer, { tray with state := state })
  findActive tenant kind tray :=
    let (answer, state) := findActive tenant kind tray.state
    (answer, { tray with state := state })
  post email tray :=
    let (answer, state) := post email tray.state
    (answer, { state := state, handed := tray.handed ++ [email] })
  collect email tray :=
    let (reply, state) := collect email tray.state
    (reply, { tray with state := state })
  insertLog entry tray :=
    let (answer, state) := insertLog entry tray.state
    (answer, { tray with state := state })
  wait tray := { tray with state := wait tray.state }

theorem beside_answers (notice : Notice) :
    AnswersAlike notice fun (tray : Tray σ) state => tray.Beside state where
  note := by
    rintro event tray _ rfl
    rfl
  findProfile := by
    rintro tray _ rfl
    exact ⟨rfl, rfl⟩
  findActive := by
    rintro tray _ rfl
    exact ⟨rfl, rfl⟩
  cancelled := by
    rintro tray _ rfl
    rfl
  now := by
    rintro tray _ rfl
    rfl
  post := by
    rintro email tray _ rfl
    exact ⟨rfl, rfl⟩
  collect := by
    rintro email tray _ rfl
    exact ⟨rfl, rfl⟩
  wait := by
    rintro tray _ rfl
    rfl
  insertLog := by
    rintro entry _ tray _ rfl
    exact ⟨rfl, rfl⟩

theorem dispatch_beside (dispatcher : Dispatcher) (notice : Notice) (recipient : Recipient)
    (state : σ) :
    Parallel (fun (tray : Tray σ) state => tray.Beside state)
      (dispatcher.dispatch notice recipient (ofState state))
      (dispatcher.dispatch notice recipient state) := by
  have beside : (ofState state).Beside state := rfl
  exact Dispatcher.dispatch_parallel (beside_answers notice).goes dispatcher recipient beside

theorem handed_outlasts_lookups (mails : List Email) :
    OutlastsLookups fun tray : Tray σ => tray.handed = mails :=
  { note := fun _ _ same => same
    findProfile := fun _ _ same => same
    findActive := fun _ _ _ same => same }

theorem handed_post {email : Email} {answer : Option Reply} {tray next : Tray σ}
    (posted : post email tray = (answer, next)) : next.handed = tray.handed ++ [email] :=
  (congrArg (fun pair => pair.2.handed) posted).symm

theorem handed_conclude (notice : Notice) (source : Source) (email : Email) (reply : Reply)
    (tray : Tray σ) :
    (Dispatcher.conclude notice source email reply tray).2.handed = tray.handed := by
  simp only [Dispatcher.conclude, Dispatcher.record]
  split
  · rfl
  · split
    · next written => exact (congrArg (fun pair => pair.2.handed) written).symm
    · next failed => exact (congrArg (fun pair => pair.2.handed) failed).symm

end Tray

namespace Dispatcher

section Handing

variable {σ : Type} [Services σ] (dispatcher : Dispatcher) (notice : Notice) (recipient : Recipient)

def handed (state : σ) : List Email :=
  (dispatcher.dispatch notice recipient (Tray.ofState state)).2.handed

inductive Carries (address : String) (sender : Option String) :
    Except DeliveryError (Source × Rendered) → List Email → Outcome → Prop where
  | nothing (error : DeliveryError) : Carries address sender (.error error) [] (.error error)
  | mail (source : Source) (rendered : Rendered) (reply : Reply) :
      Carries address sender (.ok (source, rendered)) [rendered.toEmail address sender]
        (reply.mapError .transport)

theorem Carries.outcome_of_error {address : String} {sender : Option String}
    {error : DeliveryError} {handed : List Email} {outcome : Outcome}
    (carries : Carries address sender (.error error) handed outcome) : outcome = .error error := by
  cases carries
  rfl

theorem tray_carries {tray : Tray σ} (empty : tray.handed = []) :
    let delivered := dispatcher.dispatch notice recipient tray
    delivered.1 = .error .cancelled ∨
      Carries recipient.address dispatcher.sender
        (dispatcher.prepare true notice recipient.context tray).1 delivered.2.handed
          delivered.1 := by
  have unhanded := prepare_keeps (Tray.handed_outlasts_lookups []) dispatcher true notice
    recipient.context empty
  have started := start_cases dispatcher notice recipient tray
  unfold dispatch
  generalize dispatcher.start notice recipient tray = begun at started ⊢
  cases started with
  | @failed error next prepared =>
      right
      rw [prepared] at unhanded ⊢
      rw [show (note (failure notice recipient.address error) next).handed = [] from unhanded]
      exact .nothing error
  | stopped =>
      left
      rfl
  | @underway source rendered email next last prepared going addressed posted =>
      rw [prepared] at unhanded ⊢
      have copied := Tray.handed_post posted
      rw [show next.handed = [] from unhanded, ← addressed] at copied
      simp only [land]
      by_cases stopped : cancelled (wait last)
      · left
        rw [if_pos stopped]
      · right
        rw [if_neg stopped, Tray.handed_conclude]
        rw [show (collect email (wait last)).2.handed = _ from copied]
        exact .mail source rendered _
  | @answered source rendered email next last reply prepared going addressed posted =>
      right
      rw [prepared] at unhanded ⊢
      have copied := Tray.handed_post posted
      rw [show next.handed = [] from unhanded, ← addressed] at copied
      rw [Tray.handed_conclude, copied]
      exact .mail source rendered reply

/-- Unless it is cancelled, a delivery hands over and ends as a preview in the same state would have it. -/
theorem dispatch_carries {state : σ}
    (going : (dispatcher.dispatch notice recipient state).1 ≠ .error .cancelled) :
    dispatcher.prepare true notice recipient.context state =
        dispatcher.prepare false notice recipient.context state ∧
      Carries recipient.address dispatcher.sender
        (dispatcher.prepare true notice recipient.context state).1
        (dispatcher.handed notice recipient state)
        (dispatcher.dispatch notice recipient state).1 := by
  have beside : (Tray.ofState state).Beside state := rfl
  have answers : AnswersAlike notice fun (tray : Tray σ) state => tray.Beside state :=
    Tray.beside_answers notice
  have prepared := prepare_parallel answers.toLooksAlike dispatcher true
    (fun _ => answers.cancelled) recipient.context beside
  have delivered := Tray.dispatch_beside dispatcher notice recipient state
  have empty : (Tray.ofState state).handed = [] := rfl
  have carries := tray_carries dispatcher notice recipient empty
  dsimp only at carries
  rw [delivered.1, prepared.1] at carries
  replace carries := carries.resolve_left going
  refine ⟨?_, carries⟩
  rcases prepare_heeding dispatcher notice recipient.context state with stopped | same
  · rw [stopped] at carries
    exact absurd carries.outcome_of_error going
  · exact same

end Handing

end Dispatcher

namespace Office

def stopped (office : Office) : Office := { office with cancelled := true }

theorem answering_stopped (office : Office) (service : Collaborator) :
    office.stopped.answering service = (office.answering service).stopped :=
  answering_changed office stopped (fun _ => rfl) (fun _ => rfl) service

/-- What is read for a notice does not depend on whether the deliveries have been cancelled. -/
theorem stopped_looks (notice : Notice) :
    LooksAlike notice fun office other : Office => other = office.stopped where
  note := by
    rintro event office _ rfl
    rfl
  findProfile := by
    rintro office _ rfl
    exact ⟨rfl, office.consulted.answering_stopped .tenants⟩
  findActive := by
    rintro office _ rfl
    exact ⟨rfl, office.answering_stopped .templates⟩

theorem Idle.trans {before middle after : Office} (first : before.Idle middle)
    (second : middle.Idle after) : before.Idle after :=
  { setup := second.setup.trans first.setup
    attempts := second.attempts.trans first.attempts
    sent := second.sent.trans first.sent
    logs := second.logs.trans first.logs }

theorem idle_outlasts_lookups (office : Office) : OutlastsLookups office.Idle :=
  { note := fun _ _ idle => ⟨idle.setup, idle.attempts, idle.sent, idle.logs⟩
    findProfile := fun tenant next idle => idle.trans (next.idle_find_profile tenant)
    findActive := fun _ _ next idle => idle.trans (next.idle_answering .templates) }

end Office

namespace Dispatcher

variable (dispatcher : Dispatcher) (notice : Notice) (recipient : Recipient) (office : Office)

theorem calm_uncancelled (calm : office.Calm) :
    (dispatcher.dispatch notice recipient office).1 ≠ .error .cancelled := by
  rw [(dispatch_went dispatcher notice recipient calm).1]
  cases drafted : dispatcher.draft notice recipient office with
  | error error =>
      rw [course_of_error drafted]
      rintro ⟨⟩
      exact (draft_error dispatcher notice office drafted).1 rfl
  | ok draft =>
      rw [course_of_draft drafted]
      cases office.replyTo office.sent.length draft.2 with
      | error cause => nofun
      | ok id => nofun

theorem lookups_of_ends {outcome : Outcome} {after : Office}
    (ends : Ends notice recipient office outcome after) (going : outcome ≠ .error .cancelled) :
    after.lookups = office.lookups + recipient.context.lookups := by
  cases ends with
  | cancelled => exact absurd rfl going
  | untemplated _ _ added => exact (congrArg Books.lookups added :)
  | answered _ _ _ _ _ added => exact (congrArg Books.lookups added :)

theorem Untemplated.early {error : DeliveryError} (untemplated : Untemplated notice error) :
    error.Early := by
  rcases untemplated with ⟨_, rfl⟩ | rfl
  · trivial
  · trivial

theorem prepared_uncancelled (context : Context)
    (going : (dispatcher.prepare true notice context office).1 ≠ .error .cancelled) :
    (dispatcher.prepare true notice context office).2.lookups = office.lookups + context.lookups ∧
      ∀ error, (dispatcher.prepare true notice context office).1 = .error error →
        error.Early := by
  obtain ⟨lookups, events, books, exits⟩ := prepare_adds dispatcher notice context office
  rcases exits with stopped | ⟨rfl, untemplated⟩
  · exact absurd stopped going
  · refine ⟨(congrArg Books.lookups books :), ?_⟩
    intro error failed
    exact (untemplated error failed).early

theorem preview_prepared (context : Context) :
    (dispatcher.preview notice context office).1 =
        (dispatcher.prepare false notice context office).1.map Prod.snd ∧
      (dispatcher.preview notice context office).2.lookups =
        (dispatcher.prepare false notice context office).2.lookups := by
  unfold preview
  rcases dispatcher.prepare false notice context office with ⟨error | ⟨source, rendered⟩, next⟩
  · exact ⟨rfl, rfl⟩
  · exact ⟨rfl, rfl⟩

/-- What was shown agrees with what was handed to the mailer and with how the delivery ended. -/
structure Foretold (shown : Except DeliveryError Rendered) (handed : List Email)
    (outcome : Outcome) : Prop where
  reached : (∃ rendered, shown = .ok rendered) ↔ handed ≠ []
  mail : ∀ rendered, shown = .ok rendered →
    ∃ email, handed = [email] ∧ email.subject = rendered.subject ∧ email.html = rendered.html
  withheld : ∀ error, shown = .error error ↔ outcome = .error error ∧ error.Early
  failed : ∀ error, outcome = .error error → error.Early ∨ ∃ cause, error = .transport cause

theorem transport_of_reply {reply : Reply} {error : DeliveryError}
    (failed : reply.mapError .transport = .error error) : ∃ cause, error = .transport cause := by
  cases reply with
  | ok id => cases failed
  | error cause =>
      cases failed
      exact ⟨cause, rfl⟩

theorem foretold_of_carries {address : String} {sender : Option String}
    {prepared : Except DeliveryError (Source × Rendered)} {handed : List Email} {outcome : Outcome}
    (carries : Carries address sender prepared handed outcome)
    (early : ∀ error, prepared = .error error → error.Early) :
    Foretold (prepared.map Prod.snd) handed outcome := by
  cases carries with
  | nothing error =>
      have early := early error rfl
      constructor
      · exact ⟨nofun, absurd rfl⟩
      · nofun
      · intro other
        constructor
        · rintro ⟨⟩
          exact ⟨rfl, early⟩
        · rintro ⟨⟨⟩, _⟩
          rfl
      · rintro _ ⟨⟩
        exact .inl early
  | mail source rendered reply =>
      constructor
      · exact ⟨fun _ => List.cons_ne_nil _ _, fun _ => ⟨rendered, rfl⟩⟩
      · rintro _ ⟨⟩
        exact ⟨_, rfl, rfl, rfl⟩
      · intro error
        refine ⟨nofun, ?_⟩
        rintro ⟨failed, early⟩
        obtain ⟨cause, rfl⟩ := transport_of_reply failed
        exact early.elim
      · intro error failed
        exact .inr (transport_of_reply failed)

/-- Unless the delivery is cancelled, which in a calm office it is not, its preview shows what it hands to the
mailer and fails as it does before that. A preview sends, logs and attempts nothing, asks the directory as often,
and does all this whether or not deliveries have been cancelled. -/
theorem preview_foretells (dispatcher : Dispatcher) (notice : Notice) (recipient : Recipient)
    (office : Office) :
    let shown := dispatcher.preview notice recipient.context office
    let delivered := dispatcher.dispatch notice recipient office
    (office.Calm → delivered.1 ≠ .error .cancelled) ∧
      (delivered.1 ≠ .error .cancelled →
        Foretold shown.1 (dispatcher.handed notice recipient office) delivered.1 ∧
          shown.2.lookups = delivered.2.lookups) ∧
      office.Idle shown.2 ∧
      dispatcher.preview notice recipient.context office.stopped = (shown.1, shown.2.stopped) := by
  intro shown delivered
  refine ⟨calm_uncancelled dispatcher notice recipient office, ?_, ?_, ?_⟩
  · intro going
    obtain ⟨same, carries⟩ := dispatch_carries dispatcher notice recipient going
    obtain ⟨answer, asked⟩ := preview_prepared dispatcher notice office recipient.context
    rw [← same] at answer asked
    have prepared : (dispatcher.prepare true notice recipient.context office).1 ≠
        .error .cancelled := by
      intro stopped
      rw [stopped] at carries
      exact going carries.outcome_of_error
    obtain ⟨looked, early⟩ := prepared_uncancelled dispatcher notice office _ prepared
    have ended := lookups_of_ends notice recipient office
      (dispatch_ends dispatcher notice office recipient) going
    constructor
    · rw [show shown.1 = _ from answer]
      exact foretold_of_carries carries early
    · exact (asked.trans looked).trans ended.symm
  · exact preview_keeps office.idle_outlasts_lookups dispatcher notice recipient.context
      ⟨rfl, rfl, rfl, rfl⟩
  · obtain ⟨answer, left⟩ :=
      preview_parallel (Office.stopped_looks notice) dispatcher recipient.context rfl
    exact Prod.ext answer.symm left

theorem preview_foretells_failing_mail :
    let notice := Notice.mk (Uuid.ofNat 7) .announcement
    let template : StoredTemplate :=
      { id := Uuid.ofNat 1, tenant := notice.tenant, kind := notice.kind
        subject := "From {{school.name}}", body := "", theme := .classic, active := true
        isDefault := false, version := Version.initial, updatedAt := ⟨3, 0⟩ }
    let north := Profile.ofName ⟨"North", by decide, by decide⟩
    let office := { Office.empty with
      templates := [template], profiles := [(notice.tenant, north)]
      failing := ["a@school.example"], delay := 5 }
    let recipient := Recipient.mk "a@school.example" Context.empty
    let delivered := standard.dispatch notice recipient office
    office.Calm ∧
      (∃ email, standard.handed notice recipient office = [email] ∧ email.subject = "From North") ∧
        delivered.1 = .error (.transport (.sendFailed "mock: a@school.example への送信失敗")) ∧
          delivered.2.lookups = 1 ∧
            (standard.preview notice Context.empty office.stopped).1.isOk = true := by
  intro notice template north office recipient delivered
  obtain ⟨uncancelled, foretells, _, stopped⟩ :=
    preview_foretells standard notice recipient office
  have calm : office.Calm := ⟨rfl, rfl, rfl⟩
  obtain ⟨foretold, lookups⟩ := foretells (uncancelled calm)
  have subject : (standard.preview notice recipient.context office).1.map Rendered.subject =
      .ok "From North" := by
    decide +kernel
  cases shown : (standard.preview notice recipient.context office).1 with
  | error error =>
      rw [shown] at subject
      cases subject
  | ok rendered =>
      rw [shown] at subject
      obtain ⟨email, handed, same, _⟩ := foretold.mail rendered shown
      refine ⟨calm, ⟨email, handed, same.trans (Except.ok.inj subject)⟩, ?_, ?_, ?_⟩
      · decide +kernel
      · exact lookups.symm.trans (by decide +kernel)
      · rw [show recipient.context = Context.empty from rfl] at stopped
        rw [stopped]
        decide +kernel

end Dispatcher

end SchoolNotice
