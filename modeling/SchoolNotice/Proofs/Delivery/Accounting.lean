import SchoolNotice.Proofs.Delivery.Balance

/-!
The accounts of a whole run. Whatever is configured, switched or cancelled between deliveries, attempts, mails
and log entries belong together after every command, as long as no delivery is disturbed.
-/

namespace SchoolNotice

namespace Site

/-- The command delivers nothing, or it delivers where mails are kept and logged and is not disturbed. -/
def Undisturbed (site : Site) : Command → Prop
  | .dispatch notice recipient alarm =>
      let watch := Watch.ofOffice (withAlarm alarm site.office)
      site.office.Keeps ∧ (site.dispatcher.dispatch notice recipient watch).2.disturbed = false
  | .batch notice recipients alarm =>
      let watch := Watch.ofOffice (withAlarm alarm site.office)
      site.office.Keeps ∧ (site.dispatcher.batch notice recipients watch).2.disturbed = false
  | _ => True

def Orderly (site : Site) : List Command → Prop
  | [] => True
  | command :: rest => site.Undisturbed command ∧ (site.perform command).2.Orderly rest

variable {site : Site}

theorem change_at_rest (changes : List Change) (rest : site.office.AtRest) :
    (changes.foldl change site).office.AtRest := by
  induction changes generalizing site with
  | nil => exact rest
  | cons first others induction =>
      apply induction
      cases first with
      | _ => exact ⟨rest.attempts, rest.ledger⟩

theorem over_in_order (rest : site.office.AtRest) (keeps : site.office.Keeps)
    (alarm : Option Nat) : (Watch.ofOffice (withAlarm alarm site.office)).InOrder 0 := by
  right
  exact ⟨keeps.of_setup rfl, rfl, fun none_under_way => absurd rfl none_under_way, rest.attempts,
    rest.ledger⟩

theorem at_rest_of_in_order {watch : Watch} (inOrder : watch.InOrder 0)
    (undisturbed : watch.disturbed = false) : watch.office.AtRest := by
  rcases inOrder with disturbed | balanced
  · cases undisturbed.symm.trans disturbed
  · exact ⟨balanced.attempts, balanced.ledger⟩

theorem perform_at_rest {command : Command} (rest : site.office.AtRest)
    (undisturbed : site.Undisturbed command) : (site.perform command).2.office.AtRest := by
  have lookups := Office.rest_outlasts_lookups
  cases command with
  | configure changes => exact change_at_rest changes rest
  | setFailing target failing =>
      cases target with
      | _ => exact ⟨rest.attempts, rest.ledger⟩
  | findActive notice => exact lookups.findActive notice.tenant notice.kind rest
  | findProfile tenant => exact lookups.findProfile tenant rest
  | select notice => exact Dispatcher.select_keeps lookups site.dispatcher notice rest
  | preview notice context =>
      exact Dispatcher.preview_keeps lookups site.dispatcher notice context rest
  | dispatch notice recipient alarm =>
      obtain ⟨keeps, quiet⟩ := undisturbed
      have ordered := Dispatcher.dispatch_in_order site.dispatcher notice
        (over_in_order rest keeps alarm) recipient
      have left := at_rest_of_in_order ordered quiet
      rw [Watch.dispatch_over] at left
      exact ⟨left.attempts, left.ledger⟩
  | batch notice recipients alarm =>
      obtain ⟨keeps, quiet⟩ := undisturbed
      have ordered := Dispatcher.batch_in_order site.dispatcher notice
        (over_in_order rest keeps alarm) recipients
      have left := at_rest_of_in_order ordered quiet
      rw [Watch.batch_over] at left
      exact ⟨left.attempts, left.ledger⟩
  | _ => exact ⟨rest.attempts, rest.ledger⟩

theorem run_at_rest (commands : List Command) (rest : site.office.AtRest)
    (orderly : site.Orderly commands) : (site.run commands).office.AtRest := by
  induction commands generalizing site with
  | nil => exact rest
  | cons command others induction =>
      obtain ⟨undisturbed, orderly⟩ := orderly
      exact induction (perform_at_rest rest undisturbed) orderly

end Site

/-- The command leaves the mailer and the log as they are, and sets nothing to cancel deliveries later. It may
cancel them at once. -/
def Command.Plain : Command → Prop
  | .configure changes => ∀ mailer, .mailer mailer ∈ changes → mailer = .keeping
  | .setFailing target failing => ¬(target = .logs ∧ failing = true)
  | .refuse _ => False
  | .arm service => service = none
  | .dispatch _ _ alarm => alarm = none
  | .batch _ _ alarm => alarm = none
  | _ => True

structure Office.Settled (office : Office) : Prop extends office.Keeps where
  unarmed : office.armed = none
  unalarmed : office.alarm = none

theorem Office.Settled.steady {office : Office} (settled : office.Settled) :
    office.Steady office.cancelled :=
  ⟨rfl, settled.unarmed, settled.unalarmed⟩

theorem Office.Keeps.settled {office : Office} {stopped : Bool} (keeps : office.Keeps)
    (steady : office.Steady stopped) : office.Settled :=
  ⟨keeps, steady.unarmed, steady.unalarmed⟩

theorem Office.settled_outlasts : Outlasts Office.Settled :=
  { note := fun event _ settled =>
      (keeps_outlasts.note event settled.toKeeps).settled (steady_note settled.steady event)
    findProfile := fun tenant _ settled =>
      (keeps_outlasts.findProfile tenant settled.toKeeps).settled
        ((steady_outlasts _).findProfile tenant settled.steady)
    findActive := fun tenant kind _ settled =>
      (keeps_outlasts.findActive tenant kind settled.toKeeps).settled
        ((steady_outlasts _).findActive tenant kind settled.steady)
    post := fun email _ settled =>
      (keeps_outlasts.post email settled.toKeeps).settled (steady_post settled.steady email)
    collect := fun email _ settled =>
      (keeps_outlasts.collect email settled.toKeeps).settled (steady_collect settled.steady email)
    insertLog := fun entry _ settled =>
      (keeps_outlasts.insertLog entry settled.toKeeps).settled
        (steady_insert_log settled.steady entry)
    wait := fun settled =>
      (keeps_outlasts.wait settled.toKeeps).settled (steady_wait settled.steady) }

namespace Site

variable {site : Site}

theorem change_settled (changes : List Change)
    (plain : ∀ mailer, .mailer mailer ∈ changes → mailer = .keeping)
    (settled : site.office.Settled) : (changes.foldl change site).office.Settled := by
  induction changes generalizing site with
  | nil => exact settled
  | cons first rest induction =>
      apply induction
      · intro mailer member
        exact plain mailer (List.mem_cons_of_mem first member)
      · obtain ⟨keeps, unarmed, unalarmed⟩ := settled
        cases first with
        | mailer mailer =>
            have keeping := plain mailer List.mem_cons_self
            exact ⟨⟨keeping, keeps.accepting, keeps.writing⟩, unarmed, unalarmed⟩
        | _ => exact ⟨⟨keeps.keeping, keeps.accepting, keeps.writing⟩, unarmed, unalarmed⟩

theorem settled_with_alarm {office : Office} (settled : office.Settled) {alarm : Option Nat}
    (unset : alarm = none) : (withAlarm alarm office).Settled :=
  ⟨⟨settled.keeping, settled.accepting, settled.writing⟩, settled.unarmed, unset⟩

theorem perform_settled {command : Command} (plain : command.Plain)
    (settled : site.office.Settled) : (site.perform command).2.office.Settled := by
  have keeps := settled.toKeeps
  have outlasts := Office.settled_outlasts
  cases command with
  | configure changes => exact change_settled changes plain settled
  | setFailing target failing =>
      cases target with
      | logs =>
          have writing : failing = false := Bool.eq_false_iff.mpr fun fails => plain ⟨rfl, fails⟩
          exact ⟨⟨keeps.keeping, keeps.accepting, writing⟩, settled.unarmed, settled.unalarmed⟩
      | _ =>
          exact ⟨⟨keeps.keeping, keeps.accepting, keeps.writing⟩, settled.unarmed,
            settled.unalarmed⟩
  | refuse address => exact plain.elim
  | renew =>
      exact ⟨⟨keeps.keeping, keeps.accepting, keeps.writing⟩, rfl, settled.unalarmed⟩
  | arm service => exact ⟨⟨keeps.keeping, keeps.accepting, keeps.writing⟩, plain, settled.unalarmed⟩
  | findActive notice => exact outlasts.findActive notice.tenant notice.kind settled
  | findProfile tenant => exact outlasts.findProfile tenant settled
  | select notice =>
      exact Dispatcher.select_keeps outlasts.toOutlastsLookups site.dispatcher notice settled
  | preview notice context =>
      exact Dispatcher.preview_keeps outlasts.toOutlastsLookups site.dispatcher notice context
        settled
  | dispatch notice recipient alarm =>
      have ready := settled_with_alarm settled plain
      have delivered := Dispatcher.dispatch_keeps outlasts site.dispatcher notice ready recipient
      exact settled_with_alarm delivered rfl
  | batch notice recipients alarm =>
      have ready := settled_with_alarm settled plain
      have delivered := Dispatcher.batch_keeps outlasts site.dispatcher notice ready recipients
      exact settled_with_alarm delivered rfl
  | _ =>
      exact ⟨⟨keeps.keeping, keeps.accepting, keeps.writing⟩, settled.unarmed, settled.unalarmed⟩

theorem undisturbed_of_settled {command : Command} (plain : command.Plain)
    (settled : site.office.Settled) : site.Undisturbed command := by
  have keeps := settled.toKeeps
  have still := Watch.steady_outlasts site.office.cancelled
  have watched : (Watch.ofOffice (withAlarm none site.office)).Steady site.office.cancelled :=
    ⟨⟨rfl, settled.unarmed, rfl⟩, rfl⟩
  cases command with
  | dispatch notice recipient alarm =>
      cases plain
      exact ⟨keeps, (Dispatcher.dispatch_keeps still _ _ watched _).undisturbed⟩
  | batch notice recipients alarm =>
      cases plain
      exact ⟨keeps, (Dispatcher.batch_keeps still _ _ watched _).undisturbed⟩
  | _ => trivial

/-- No delivery is disturbed in a run in which nothing is set to cancel deliveries later. -/
theorem orderly_of_plain (commands : List Command) (plain : ∀ command ∈ commands, command.Plain)
    (settled : site.office.Settled) : site.Orderly commands := by
  induction commands generalizing site with
  | nil => trivial
  | cons command rest induction =>
      rw [List.forall_mem_cons] at plain
      have performed := perform_settled plain.1 settled
      exact ⟨undisturbed_of_settled plain.1 settled, induction plain.2 performed⟩

/-- In a run from an empty office that keeps its mails and its log, and in which no delivery is disturbed while
its mail is under way, attempts, mails and log entries belong together. -/
theorem deliveries_accounted (commands : List Command) (orderly : empty.Orderly commands) :
    (empty.run commands).office.Accounted := by
  have rest := run_at_rest commands ⟨rfl, .empty⟩ orderly
  exact Office.accounted_of_ledger rest.ledger rest.attempts

theorem deliveries_accounted_mixed :
    let notice := Notice.mk (Uuid.ofNat 7) .announcement
    let first := Recipient.mk "a@school.example" Context.empty
    let second := Recipient.mk "b@school.example" Context.empty
    let commands := [.failFor "b@school.example", .setDelay 5, .configure [.concurrency 2],
      .batch notice [first, second, first] none, .setDelay 0, .dispatch notice second none, .cancel,
      .dispatch notice first none, .preview notice Context.empty, .renew,
      .setFailing .templates true, .dispatch notice first none, .setFailing .templates false,
      .batch notice [second, first] none]
    let office := (empty.run commands).office
    empty.Orderly commands ∧ office.Accounted ∧ office.attempts = 6 ∧ office.sent.length = 3 ∧
      office.logs.map LogEntry.messageId =
        [some "mock-1", none, some "mock-2", none, none, some "mock-3"] := by
  intro notice first second commands office
  have plain : ∀ command ∈ commands, command.Plain := by
    simp [commands, Command.Plain]
  have settled : empty.office.Settled := ⟨⟨rfl, rfl, rfl⟩, rfl, rfl⟩
  have orderly := orderly_of_plain commands plain settled
  refine ⟨orderly, deliveries_accounted commands orderly, ?_⟩
  decide +kernel

end Site

end SchoolNotice
