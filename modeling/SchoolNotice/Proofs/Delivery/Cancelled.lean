import SchoolNotice.Delivery.Run
import SchoolNotice.Proofs.Delivery.Exits

/-!
Errors leave the office as it was. Once deliveries are cancelled they all end so, and nothing but an event for
each comes of them; a delivery without a template has only looked up the tenant; and one whose mail fails has sent
nothing, though it has asked the mailer, unless the address is refused before that.
-/

namespace SchoolNotice

namespace Dispatcher

section Heeding

variable {σ : Type} [Services σ] (dispatcher : Dispatcher) (notice : Notice) {state : σ}
  (stopped : Services.cancelled state = true)

include stopped

theorem prepare_cancelled (context : Context) :
    dispatcher.prepare true notice context state = (.error .cancelled, state) := by
  unfold prepare enrich compose
  by_cases complete : context.hasCompleteBranding
  · simp [complete, stopped]
  · simp [complete, stopped]

theorem start_cancelled (recipient : Recipient) :
    dispatcher.start notice recipient state =
      (.settled (.error .cancelled),
        Services.note (failure notice recipient.address .cancelled) state) := by
  rw [start, prepare_cancelled dispatcher notice stopped]

theorem dispatch_cancelled (recipient : Recipient) :
    dispatcher.dispatch notice recipient state =
      (.error .cancelled, Services.note (failure notice recipient.address .cancelled) state) := by
  rw [dispatch, start_cancelled dispatcher notice stopped]

end Heeding

end Dispatcher

namespace Office

def noting (events : List Event) (office : Office) : Office :=
  { office with events := office.events ++ events }

theorem noting_nil (office : Office) : office.noting [] = office := by
  rw [noting, List.append_nil]

theorem noting_cons (office : Office) (event : Event) (events : List Event) :
    office.noting (event :: events) = (office.note event).noting events := by
  rw [noting, noting, note, List.append_cons]

theorem note_noting (office : Office) (events : List Event) (event : Event) :
    (office.noting events).note event = office.noting (events ++ [event]) := by
  rw [noting, noting, note, List.append_assoc]

end Office

namespace Dispatcher

variable (dispatcher : Dispatcher) (notice : Notice) (recipients : List Recipient) {office : Office}
  (stopped : office.cancelled = true)

def cancellations (notice : Notice) (recipients : List Recipient) : List Event :=
  recipients.map fun recipient => .deliveryCancelled notice.tenant notice.kind recipient.address

include stopped

theorem dispatch_all_cancelled :
    dispatcher.dispatchAll notice recipients office =
      (recipients.map fun _ => .error .cancelled,
        office.noting (cancellations notice recipients)) := by
  induction recipients generalizing office with
  | nil => exact congrArg (Prod.mk []) office.noting_nil.symm
  | cons recipient rest induction =>
      let event : Event := .deliveryCancelled notice.tenant notice.kind recipient.address
      have first : dispatcher.dispatch notice recipient office =
          (.error .cancelled, office.note event) :=
        dispatch_cancelled dispatcher notice stopped recipient
      have noted : (office.note event).cancelled = true := stopped
      rw [cancellations, List.map_cons, List.map_cons, Office.noting_cons]
      simp only [dispatchAll, first, induction noted]
      rfl

theorem batch_cancelled :
    dispatcher.batch notice recipients office =
      (recipients.map fun _ => .error .cancelled,
        office.noting (cancellations notice recipients ++
          [.batchCompleted notice.tenant notice.kind 0 recipients.length])) := by
  have settles : ∀ recipient (state : Office), state.cancelled = true → ∃ outcome next,
      dispatcher.start notice recipient state = (.settled outcome, next) ∧
        next.cancelled = true := by
    intro recipient state still
    exact ⟨_, _, start_cancelled dispatcher notice still recipient, still⟩
  have drained : dispatcher.drain notice ⟨[], recipients⟩ office =
      dispatcher.dispatchAll notice recipients office :=
    drain_settling dispatcher notice _ settles recipients [] recipients rfl stopped
  have none_succeeded : succeeded (recipients.map fun _ => .error .cancelled) = 0 := by
    simp [succeeded, Except.isOk, Except.toBool]
  rw [batch, drained, dispatch_all_cancelled dispatcher notice recipients stopped,
    ← Office.note_noting]
  dsimp only
  rw [none_succeeded, List.length_map]
  rfl

end Dispatcher

namespace Site

variable {site : Site}

theorem change_keeps_cancelled (changes : List Change)
    (stopped : site.office.cancelled = true) : (changes.foldl change site).office.cancelled := by
  induction changes generalizing site with
  | nil => exact stopped
  | cons first rest induction =>
      apply induction
      cases first with
      | _ => exact stopped

theorem perform_keeps_cancelled {command : Command} (kept : command ≠ .renew)
    (stopped : site.office.cancelled = true) :
    (site.perform command).2.office.cancelled = true := by
  cases command with
  | configure changes => exact change_keeps_cancelled changes stopped
  | setFailing target failing => cases target <;> exact stopped
  | renew => exact absurd rfl kept
  | findActive notice =>
      exact (site.office.grew_find_active notice.tenant notice.kind).cancelled stopped
  | findProfile tenant => exact (site.office.grew_find_profile tenant).cancelled stopped
  | select notice => exact (site.dispatcher.grew_select notice site.office).cancelled stopped
  | preview notice context =>
      exact (site.dispatcher.grew_preview notice context site.office).cancelled stopped
  | dispatch notice recipient alarm =>
      have armed : Services.cancelled (withAlarm alarm site.office) = true := stopped
      simp only [perform, site.dispatcher.dispatch_cancelled notice armed]
      exact stopped
  | batch notice recipients alarm =>
      have armed : (withAlarm alarm site.office).cancelled = true := stopped
      simp only [perform, site.dispatcher.batch_cancelled notice recipients armed]
      exact stopped
  | cancel => rfl
  | _ => exact stopped

theorem run_keeps_cancelled (commands : List Command) (kept : .renew ∉ commands)
    (stopped : site.office.cancelled = true) : (site.run commands).office.cancelled = true := by
  induction commands generalizing site with
  | nil => exact stopped
  | cons command rest induction =>
      rw [List.mem_cons, not_or] at kept
      exact induction kept.2 (perform_keeps_cancelled (Ne.symm kept.1) stopped)

def afterNoting (site : Site) (events : List Event) : Site :=
  { site with office := withAlarm none (site.office.noting events) }

/-- Whatever is delivered now is cancelled, and nothing but events comes of it. -/
structure Frozen (site : Site) : Prop where
  dispatch : ∀ notice recipient alarm,
    site.perform (.dispatch notice recipient alarm) =
      (.outcome (.error .cancelled),
        site.afterNoting (Dispatcher.cancellations notice [recipient]))
  batch : ∀ notice recipients alarm,
    site.perform (.batch notice recipients alarm) =
      (.outcomes (recipients.map fun recipient => (recipient.address, .error .cancelled)),
        site.afterNoting (Dispatcher.cancellations notice recipients ++
          [.batchCompleted notice.tenant notice.kind 0 recipients.length]))

theorem frozen_of_cancelled (stopped : site.office.cancelled = true) : site.Frozen := by
  constructor
  case dispatch =>
    intro notice recipient alarm
    have armed : Services.cancelled (withAlarm alarm site.office) = true := stopped
    simp only [perform, site.dispatcher.dispatch_cancelled notice armed]
    rfl
  case batch =>
    intro notice recipients alarm
    have armed : (withAlarm alarm site.office).cancelled = true := stopped
    simp only [perform, site.dispatcher.batch_cancelled notice recipients armed, List.zip_map']
    rfl

end Site

/-- A delivery that finds itself cancelled changes nothing, and so it goes for all that is delivered after a
cancel. One without a template has at most looked up the tenant. One whose mail fails has sent nothing, and has
asked the mailer exactly once if the office does not refuse the address, and else not at all. -/
theorem Dispatcher.errors_leave_office (dispatcher : Dispatcher) (notice : Notice)
    (recipient : Recipient) (office : Office) :
    let delivered := dispatcher.dispatch notice recipient office
    (office.cancelled = true →
        delivered = (.error .cancelled, office.noting (cancellations notice [recipient]))) ∧
      (∀ error, delivered.1 = .error error → error.Early →
        office.Unspent recipient.context.lookups delivered.2) ∧
      (∀ cause, delivered.1 = .error (.transport cause) →
        delivered.2.sent = office.sent ∧
          (recipient.address ∉ office.refused → delivered.2.attempts = office.attempts + 1) ∧
          delivered.2.attempts = office.attempts + office.tries recipient.address) ∧
      ∀ (site : Site) (before later : List Command), .renew ∉ later →
        (site.run (before ++ .cancel :: later)).Frozen := by
  intro delivered
  have ends := dispatch_ends dispatcher notice office recipient
  refine ⟨?_, ?_, ?_, ?_⟩
  · intro stopped
    have armed : Services.cancelled office = true := stopped
    exact dispatch_cancelled dispatcher notice armed recipient
  · intro error failed early
    exact early_unspent ends failed early
  · intro cause failed
    obtain ⟨unsent, attempted⟩ := transport_spent ends failed
    refine ⟨unsent, ?_, attempted⟩
    intro accepted
    rw [attempted, office.tries_of_accepted accepted]
  · intro site before later kept
    apply Site.frozen_of_cancelled
    have split : site.run (before ++ .cancel :: later) =
        ((site.run before).perform .cancel).2.run later := by
      rw [Site.run, List.foldl_append]
      rfl
    rw [split]
    exact Site.run_keeps_cancelled later kept rfl

theorem Dispatcher.errors_leave_office_each_exit :
    let notice := Notice.mk (Uuid.ofNat 7) .announcement
    let recipient := Recipient.mk "a@school.example" Context.empty
    let stopped := { Office.empty with cancelled := true }
    let unread := { Office.empty with templatesFail := true }
    let unreached := { Office.empty with failing := ["a@school.example"], delay := 5 }
    let deliver := standard.dispatch notice recipient
    let later := [.setDelay 0, .dispatch notice recipient none, .batch notice [recipient] (some 2)]
    (deliver stopped).2 = stopped.noting (cancellations notice [recipient]) ∧
      unread.Unspent 1 (deliver unread).2 ∧
        (deliver unreached).2.sent = [] ∧ (deliver unreached).2.attempts = 1 ∧
          ((Site.mk standard unreached).run (.now :: .cancel :: later)).Frozen := by
  intro notice recipient stopped unread unreached deliver later
  have cancelled := (errors_leave_office standard notice recipient stopped).1
  have early := (errors_leave_office standard notice recipient unread).2.1
  obtain ⟨_, _, transport, frozen⟩ := errors_leave_office standard notice recipient unreached
  have unreadable : (deliver unread).1 = .error (.templateLookup Office.outage) := by
    decide +kernel
  have failed : (deliver unreached).1 = .error
      (.transport (.sendFailed "mock: a@school.example への送信失敗")) := by
    decide +kernel
  obtain ⟨unsent, attempted, _⟩ := transport _ failed
  refine ⟨?_, early _ unreadable trivial, unsent, attempted List.not_mem_nil, ?_⟩
  · exact congrArg Prod.snd (cancelled rfl)
  · apply frozen (Site.mk standard unreached) [.now] later
    simp [later]

end SchoolNotice
