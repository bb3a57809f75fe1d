import Mathlib.Data.List.Forall2
import SchoolNotice.Proofs.Delivery.Wavering

/-!
A log that fails is not seen. Two runs of the same commands that differ only in when the log fails are answered
alike at every command, send the same mails and ask the mailer and the directory as often. If in the one the log
fails whenever it does in the other, then its entries are the other's with some left out.
-/

namespace SchoolNotice

namespace Site

/-- Carries a command out while the log fails at some of its calls, whatever its switch says. -/
def performUnder (faults : Nat → Bool) (site : Site) (command : Command) : Answer × Site :=
  match command with
  | .dispatch notice recipient alarm =>
      let (outcome, wavering) := site.dispatcher.dispatch notice recipient
        (Wavering.mk (withAlarm alarm site.office) faults)
      (.outcome outcome, { site with office := withAlarm none wavering.office })
  | .batch notice recipients alarm =>
      let (outcomes, wavering) := site.dispatcher.batch notice recipients
        (Wavering.mk (withAlarm alarm site.office) faults)
      (.outcomes ((recipients.map Recipient.address).zip outcomes),
        { site with office := withAlarm none wavering.office })
  | command => site.perform command

def points (site : Site) : List Command → List (Answer × Site)
  | [] => []
  | command :: rest => site.perform command :: (site.perform command).2.points rest

def pointsUnder (faults : Nat → Nat → Bool) (site : Site) : List Command → List (Answer × Site)
  | [] => []
  | command :: rest =>
      let point := site.performUnder (faults 0) command
      point :: point.2.pointsUnder (fun step => faults (step + 1)) rest

def turning (positions : Nat → Bool) : List Command → List Command
  | [] => []
  | command :: rest =>
      .setFailing .logs (positions 0) :: command :: turning (fun step => positions (step + 1)) rest

/-- Two sites that differ in the log's switch, the events and the log, if at all. -/
structure Apart (covered : Prop) (site other : Site) : Prop where
  dispatcher : site.dispatcher = other.dispatcher
  office : Office.Aside covered site.office other.office

variable {covered : Prop} {site other : Site}

theorem change_apart (apart : Apart covered site other) (change : Change) :
    Apart covered (site.change change) (other.change change) := by
  rcases site with ⟨dispatcher, office⟩
  rcases other with ⟨_, other⟩
  rcases apart with ⟨rfl, aside⟩
  cases aside with
  | mk fails events left =>
      cases change with
      | sender | concurrency | registry | clock | mailer => exact ⟨rfl, .mk fails events left⟩

theorem changes_apart (apart : Apart covered site other) (changes : List Change) :
    Apart covered (changes.foldl change site) (changes.foldl change other) := by
  induction changes generalizing site other with
  | nil => exact apart
  | cons first rest induction => exact induction (change_apart apart first)

theorem aside_looks (covered : Prop) (notice : Notice) :
    LooksAlike notice (Office.Aside covered) where
  note event _ _ aside := ((Office.note_leaves_log event).parallel aside).2
  findProfile aside := (Office.find_profile_leaves_log notice.tenant).parallel aside
  findActive aside := (Office.find_active_leaves_log notice.tenant notice.kind).parallel aside

theorem with_alarm_aside {office beyond : Office} (alarm : Option Nat)
    (aside : Office.Aside covered office beyond) :
    Office.Aside covered (withAlarm alarm office) (withAlarm alarm beyond) := by
  cases aside with
  | mk fails events left => exact .mk fails events left

theorem perform_under_apart {faults others : Nat → Bool}
    (surely : covered → ∀ call, faults call = true → others call = true)
    (apart : Apart covered site other) (command : Command) :
    Parallel (Apart covered) (site.performUnder faults command)
      (other.performUnder others command) := by
  rcases site with ⟨dispatcher, office⟩
  rcases other with ⟨_, other⟩
  have reconfigured := changes_apart apart
  rcases apart with ⟨rfl, aside⟩
  have beside : ∀ alarm, Wavering.Beside covered ⟨withAlarm alarm office, faults⟩
      ⟨withAlarm alarm other, others⟩ :=
    fun alarm => ⟨with_alarm_aside alarm aside, surely⟩
  cases command with
  | configure changes => exact ⟨rfl, reconfigured changes⟩
  | addTemplate | addProfile | failFor | refuse | setDelay | cancel | renew | arm | now =>
      cases aside with
      | mk fails events left => exact ⟨rfl, rfl, .mk fails events left⟩
  | setFailing target failing =>
      cases aside with
      | mk fails events left =>
          cases target with
          | templates | tenants => exact ⟨rfl, rfl, .mk fails events left⟩
          | logs => exact ⟨rfl, rfl, .mk failing events left⟩
  | findActive notice =>
      have found := (Office.find_active_leaves_log notice.tenant notice.kind).parallel aside
      exact ⟨congrArg Answer.templates found.1, rfl, found.2⟩
  | findProfile tenant =>
      have found := (Office.find_profile_leaves_log tenant).parallel aside
      exact ⟨congrArg Answer.profile found.1, rfl, found.2⟩
  | select notice =>
      have selected := Dispatcher.select_parallel dispatcher aside
        (aside_looks covered notice).toSelectsAlike
      exact ⟨congrArg Answer.selected selected.1, rfl, selected.2⟩
  | preview notice context =>
      have shown := Dispatcher.preview_parallel (aside_looks covered notice) dispatcher context aside
      exact ⟨congrArg Answer.preview shown.1, rfl, shown.2⟩
  | dispatch notice recipient alarm =>
      have delivered := Dispatcher.dispatch_parallel (Wavering.beside_goes covered notice)
        dispatcher recipient (beside alarm)
      exact ⟨congrArg Answer.outcome delivered.1, rfl, with_alarm_aside none delivered.2.office⟩
  | batch notice recipients alarm =>
      have delivered := Dispatcher.batch_parallel (Wavering.beside_goes covered notice)
        dispatcher recipients (beside alarm)
      have outcomes := congrArg ((recipients.map Recipient.address).zip ·) delivered.1
      exact ⟨congrArg Answer.outcomes outcomes, rfl, with_alarm_aside none delivered.2.office⟩

/-- If the log fails at every call or at none, as its switch says, a command is carried out as usual. -/
theorem perform_under_switch {fails : Bool} (switch : site.office.logsFail = fails)
    (command : Command) : site.performUnder (fun _ => fails) command = site.perform command := by
  have steadied : ∀ alarm, Wavering.Steadied ⟨withAlarm alarm site.office, fun _ => fails⟩
      (withAlarm alarm site.office) :=
    fun alarm => ⟨rfl, fun _ => switch.symm⟩
  cases command with
  | dispatch notice recipient alarm =>
      have delivered := Dispatcher.dispatch_parallel (Wavering.steadied_answers notice).goes
        site.dispatcher recipient (steadied alarm)
      simp only [performUnder, perform, delivered.1, delivered.2.office]
  | batch notice recipients alarm =>
      have delivered := Dispatcher.batch_parallel (Wavering.steadied_answers notice).goes
        site.dispatcher recipients (steadied alarm)
      simp only [performUnder, perform, delivered.1, delivered.2.office]
  | _ => rfl

theorem points_under_apart {faults others : Nat → Nat → Bool}
    (surely : covered → ∀ step call, faults step call = true → others step call = true)
    (apart : Apart covered site other) (commands : List Command) :
    List.Forall₂ (Parallel (Apart covered)) (site.pointsUnder faults commands)
      (other.pointsUnder others commands) := by
  induction commands generalizing site other faults others with
  | nil => exact .nil
  | cons command rest induction =>
      have done := perform_under_apart (fun known => surely known 0) apart command
      have later : covered → ∀ step call,
          faults (step + 1) call = true → others (step + 1) call = true :=
        fun known step => surely known (step + 1)
      exact .cons done (induction later done.2)

theorem points_apart {positions others : Nat → Bool}
    (surely : covered → ∀ step, positions step = true → others step = true)
    (apart : Apart covered site other) (commands : List Command) :
    List.Forall₂ (Parallel (Apart covered)) (site.points (turning positions commands))
      (other.points (turning others commands)) := by
  induction commands generalizing site other positions others with
  | nil => exact .nil
  | cons command rest induction =>
      let first := (site.perform (.setFailing .logs (positions 0))).2
      let second := (other.perform (.setFailing .logs (others 0))).2
      have turned : Apart covered first second :=
        ⟨apart.dispatcher, apart.office.set_failing (positions 0) (others 0)⟩
      have done := perform_under_apart (fun known _ => surely known 0) turned command
      have usual := @perform_under_switch first (positions 0) rfl command
      have also := @perform_under_switch second (others 0) rfl command
      rw [usual, also] at done
      have later : covered → ∀ step, positions (step + 1) = true → others (step + 1) = true :=
        fun known step => surely known (step + 1)
      exact .cons ⟨rfl, turned⟩ (.cons done (induction later done.2))

/-- The same was answered, and but for the log and the events the same was done. -/
structure Unseen (covered : Prop) (first second : Answer × Site) : Prop where
  answer : first.1 = second.1
  sent : first.2.office.sent = second.2.office.sent
  attempts : first.2.office.attempts = second.2.office.attempts
  lookups : first.2.office.lookups = second.2.office.lookups
  /-- Entries are left out where the log is known to fail whenever it does in the first run. -/
  left : covered → second.2.office.logs.Sublist first.2.office.logs

theorem unseen_of_parallel {first second : Answer × Site}
    (parallel : Parallel (Apart covered) first second) : Unseen covered first second := by
  rcases first with ⟨answer, site⟩
  rcases second with ⟨_, dispatcher, office⟩
  rcases parallel with ⟨rfl, _, aside⟩
  cases aside with
  | mk fails events left => exact ⟨rfl, rfl, rfl, rfl, left⟩

/-- Whenever the log fails, be it for whole commands by its switch or at any of its calls, nothing but the log
and the events shows it at any point of a run; and a log that fails more often has the same entries with some
left out. -/
theorem log_faults_unseen (site : Site) (commands : List Command) :
    (∀ positions others : Nat → Bool,
      List.Forall₂ (Unseen (∀ step, positions step = true → others step = true))
        (site.points (turning positions commands)) (site.points (turning others commands))) ∧
      ∀ faults others : Nat → Nat → Bool,
        List.Forall₂ (Unseen (∀ step call, faults step call = true → others step call = true))
          (site.pointsUnder faults commands) (site.pointsUnder others commands) := by
  have same : ∀ covered, Apart covered site site :=
    fun covered => ⟨rfl, .refl covered site.office⟩
  constructor
  · intro positions others
    apply List.Forall₂.imp fun _ _ => unseen_of_parallel
    exact points_apart (fun surely => surely) (same _) commands
  · intro faults others
    apply List.Forall₂.imp fun _ _ => unseen_of_parallel
    exact points_under_apart (fun surely => surely) (same _) commands

theorem log_faults_unseen_in_batch :
    let notice := Notice.mk (Uuid.ofNat 7) .announcement
    let template : StoredTemplate :=
      { id := Uuid.ofNat 1, tenant := notice.tenant, kind := notice.kind, subject := "News"
        body := "", theme := .classic, active := true, isDefault := false
        version := Version.initial, updatedAt := ⟨3, 0⟩ }
    let site := Site.mk .standard { Office.empty with templates := [template], delay := 5 }
    let recipients := ["a@school.example", "b@school.example"].map fun address =>
      Recipient.mk address Context.empty
    let delivered := fun faults => (site.performUnder faults (.batch notice recipients none)).2.office
    let whole := delivered fun _ => false
    let cut := delivered fun call => call == 0
    whole.logs.map LogEntry.recipient = ["a@school.example", "b@school.example"] ∧
      cut.logs.map LogEntry.recipient = ["b@school.example"] ∧
        cut.logs.Sublist whole.logs ∧ cut.sent = whole.sent ∧ whole.sent.length = 2 := by
  intro notice template site recipients delivered whole cut
  have unseen := (log_faults_unseen site [.batch notice recipients none]).2
    (fun _ _ => false) (fun _ call => call == 0)
  have batch := (List.forall₂_cons.mp unseen).1
  have covered : ∀ step call : Nat, false = true → (call == 0) = true := nofun
  refine ⟨?_, ?_, batch.left covered, batch.sent.symm, ?_⟩
  · decide +kernel
  · decide +kernel
  · decide +kernel

end Site

end SchoolNotice
