import SchoolNotice.Proofs.Delivery.Books
import SchoolNotice.Proofs.Delivery.Parallel

/-!
Offices in which nothing is set to cancel the deliveries. No call of a service changes that, and so deliveries
that have been cancelled stay so, and others are not cancelled.
-/

namespace SchoolNotice

namespace Office

/-- Whether deliveries have been cancelled is settled: nothing is set to cancel them. -/
structure Steady (stopped : Bool) (office : Office) : Prop where
  cancelled : office.cancelled = stopped
  unarmed : office.armed = none
  unalarmed : office.alarm = none

abbrev Calm (office : Office) : Prop := office.Steady false

section Calls

variable {stopped : Bool} {office : Office} (steady : office.Steady stopped)

include steady

theorem answering_steady (service : Collaborator) : office.answering service = office := by
  rw [answering, steady.unarmed]
  exact if_neg nofun

theorem wait_steady : office.wait = { office with elapsed := office.elapsed + office.delay } := by
  simp only [wait, steady.unalarmed]

theorem steady_wait : office.wait.Steady stopped := by
  rw [wait_steady steady]
  exact ⟨steady.cancelled, steady.unarmed, steady.unalarmed⟩

theorem steady_note (event : Event) : (office.note event).Steady stopped :=
  ⟨steady.cancelled, steady.unarmed, steady.unalarmed⟩

theorem steady_asked : office.asked.Steady stopped :=
  ⟨steady.cancelled, steady.unarmed, steady.unalarmed⟩

theorem steady_consulted : office.consulted.Steady stopped :=
  ⟨steady.cancelled, steady.unarmed, steady.unalarmed⟩

theorem steady_answering (service : Collaborator) : (office.answering service).Steady stopped := by
  rw [answering_steady steady]
  exact steady

theorem steady_collect (email : Email) : (office.collect email).2.Steady stopped := by
  by_cases fails : email.recipient ∈ office.failing
  · rw [collect_failing fails]
    exact steady_answering steady .sender
  · rw [collect_reached fails]
    have mailed : (office.withMail email).Steady stopped :=
      ⟨steady.cancelled, steady.unarmed, steady.unalarmed⟩
    exact steady_answering mailed .sender

theorem steady_post (email : Email) : (office.post email).2.Steady stopped := by
  by_cases refused : email.recipient ∈ office.refused
  · rw [post_refused refused]
    exact steady_answering steady .sender
  · cases kind : office.mailer with
    | skipping id =>
        rw [post_skipped refused kind]
        exact steady_answering (steady_note steady _) .sender
    | keeping =>
        by_cases instant : office.delay = 0
        · rw [post_instant refused kind instant]
          exact steady_collect (steady_asked steady) email
        · rw [post_slow refused kind instant]
          exact steady_asked steady

theorem steady_insert_log (entry : LogEntry) : (office.insertLog entry).2.Steady stopped := by
  cases fails : office.logsFail with
  | true =>
      rw [insert_log_failing entry fails]
      exact steady_answering steady .logs
  | false =>
      rw [insert_log_kept entry fails]
      have written : (office.withEntry entry).Steady stopped :=
        ⟨steady.cancelled, steady.unarmed, steady.unalarmed⟩
      exact steady_answering written .logs

end Calls

theorem steady_outlasts (stopped : Bool) : Outlasts (Steady stopped) :=
  { note := fun event _ steady => steady_note steady event
    findProfile := fun _ _ steady => steady_answering (steady_consulted steady) .tenants
    findActive := fun _ _ _ steady => steady_answering steady .templates
    post := fun email _ steady => steady_post steady email
    collect := fun email _ steady => steady_collect steady email
    insertLog := fun entry _ steady => steady_insert_log steady entry
    wait := steady_wait }

end Office

end SchoolNotice
