import SchoolNotice.Proofs.Delivery.Degrading
import SchoolNotice.Proofs.Delivery.LogFaults
import SchoolNotice.Proofs.Delivery.Overtaking

/-!
The tally of a run. Each command adds as many business events that tell of a mail sent as it has deliveries that
succeed, and where mails are kept as many mails.
-/

namespace SchoolNotice

theorem Dispatcher.succeeded_append (outcomes more : List Outcome) :
    succeeded (outcomes ++ more) = succeeded outcomes + succeeded more := by
  rw [succeeded, List.filter_append, List.length_append]
  rfl

open Dispatcher (succeeded)
open Office (Grew Told)

def Office.reportedSent (office : Office) : Nat := office.business.countP Event.isSent

namespace Office.Told

variable {report : List Event} {before after : Office}

theorem reported (told : Told report before after) :
    after.reportedSent = before.reportedSent + report.countP Event.isSent := by
  rw [reportedSent, told.business, List.countP_append]
  rfl

end Office.Told

namespace Site

def kept (point : Answer × Site) : List Outcome :=
  if point.2.office.mailer = .keeping then point.1.endings else []

/-- The events and the mails that a command adds are as many as its deliveries that succeed. -/
structure Tallied (site : Site) (point : Answer × Site) : Prop where
  reported : point.2.office.reportedSent = site.office.reportedSent + succeeded point.1.endings
  mails : point.2.office.sent.length = site.office.sent.length + succeeded (kept point)

theorem tallied_of_told {site : Site} {answer : Answer} {report : List Event} {after : Office}
    (told : Told report site.office after)
    (counted : report.countP Event.isSent = succeeded answer.endings) :
    site.Tallied (answer, { site with office := after }) := by
  have mailer : after.mailer = site.office.mailer := (congrArg Office.mailer told.setup :)
  constructor
  · rw [← counted]
    exact told.reported
  · refine told.mails.trans (congrArg (site.office.sent.length + ·) ?_)
    rw [Office.mailed, kept, counted]
    dsimp only
    rw [mailer]
    split
    · rfl
    · rfl

variable (site : Site)

/-- A command that delivers nothing, and leaves the events and the mails as they are. -/
theorem tallied_idle {answer : Answer} {after : Site} (silent : answer.endings = [])
    (events : after.office.events = site.office.events)
    (sent : after.office.sent = site.office.sent) : site.Tallied (answer, after) := by
  have nothing : kept (answer, after) = [] := by
    rw [kept, silent, ite_self]
  constructor
  · rw [silent, Office.reportedSent, Office.business, events]
    rfl
  · rw [nothing, sent]
    rfl

theorem told_with_alarm (alarm : Option Nat) (office : Office) :
    Told [] office (withAlarm alarm office) :=
  Grew.told_nothing ⟨rfl, (List.append_nil _).symm, (List.append_nil _).symm, id⟩ rfl

theorem change_adds_nothing (changes : List Change) :
    (changes.foldl change site).office.events = site.office.events ∧
      (changes.foldl change site).office.sent = site.office.sent := by
  induction changes generalizing site with
  | nil => exact ⟨rfl, rfl⟩
  | cons first rest induction =>
      obtain ⟨events, sent⟩ := induction (site.change first)
      rw [List.foldl_cons, events, sent]
      cases first with
      | _ => exact ⟨rfl, rfl⟩

theorem endings_of_batch {recipients : List Recipient} {outcomes : List Outcome}
    (each : outcomes.length = recipients.length) :
    (Answer.outcomes ((recipients.map Recipient.address).zip outcomes)).endings = outcomes := by
  have same : outcomes.length = (recipients.map Recipient.address).length := by
    rw [List.length_map, each]
  exact List.map_snd_zip (Nat.le_of_eq same)

theorem perform_tallied (command : Command) : site.Tallied (site.perform command) := by
  cases command with
  | configure changes =>
      obtain ⟨events, sent⟩ := change_adds_nothing site changes
      exact tallied_idle site rfl events sent
  | setFailing target failing =>
      cases target with
      | _ => exact tallied_idle site rfl rfl rfl
  | findActive notice =>
      exact tallied_of_told (site.office.told_find_active notice.tenant notice.kind) rfl
  | findProfile tenant => exact tallied_of_told (site.office.told_find_profile tenant) rfl
  | select notice =>
      exact tallied_of_told (site.office.told_find_active notice.tenant notice.kind) rfl
  | preview notice context =>
      obtain ⟨report, previews, told⟩ := site.dispatcher.preview_told notice context site.office
      exact tallied_of_told told (previews_unsent previews)
  | dispatch notice recipient alarm =>
      obtain ⟨report, reports, told⟩ :=
        site.dispatcher.dispatch_told notice (withAlarm alarm site.office) recipient
      have whole := (told_with_alarm alarm site.office).after_nothing
        (told.then_nothing (told_with_alarm none _))
      refine tallied_of_told whole ?_
      rw [reports_counted reports]
      exact (Dispatcher.succeeded_cons _ []).symm
  | batch notice recipients alarm =>
      obtain ⟨emitted, due, completed, failed, owed, overtaking, completes, -, told⟩ :=
        site.dispatcher.batch_told notice (withAlarm alarm site.office) recipients
      have whole := (told_with_alarm alarm site.office).after_nothing
        (told.then_nothing (told_with_alarm none _))
      refine tallied_of_told whole ?_
      rw [Dispatcher.batch_sent notice owed overtaking completes]
      exact congrArg succeeded (endings_of_batch (in_turn_length owed)).symm
  | _ => exact tallied_idle site rfl rfl rfl

def endings (site : Site) (commands : List Command) : List Outcome :=
  (site.points commands).flatMap fun point => point.1.endings

def keptEndings (site : Site) (commands : List Command) : List Outcome :=
  (site.points commands).flatMap kept

theorem run_tallied (commands : List Command) :
    (site.run commands).office.reportedSent =
        site.office.reportedSent + succeeded (site.endings commands) ∧
      (site.run commands).office.sent.length =
        site.office.sent.length + succeeded (site.keptEndings commands) := by
  induction commands generalizing site with
  | nil => exact ⟨rfl, rfl⟩
  | cons command rest induction =>
      have tallied := perform_tallied site command
      obtain ⟨reported, mails⟩ := induction (site.perform command).2
      constructor
      · rw [endings, points, List.flatMap_cons, Dispatcher.succeeded_append, ← Nat.add_assoc,
          ← tallied.reported]
        exact reported
      · rw [keptEndings, points, List.flatMap_cons, Dispatcher.succeeded_append, ← Nat.add_assoc,
          ← tallied.mails]
        exact mails

/-- A delivery reports the mailer's reply and nothing else, a preview that it is shown. A batch reports what is due
for each recipient and at last that it is complete, in the order of the recipients but for what is refused while
mails take time. Over a run as many mails are reported sent as deliveries succeed, and where mails are kept as many
are kept. -/
theorem business_accounted (site : Site) (notice : Notice) :
    (∀ recipient, let delivered := site.dispatcher.dispatch notice recipient site.office
      ∃ report, Reports notice recipient.address delivered.1 report ∧
        delivered.2.business = site.office.business ++ report) ∧
    (∀ recipients, let batched := site.dispatcher.batch notice recipients site.office
      ∃ emitted due completed failed,
        InTurn (fun recipient => Reports notice recipient.address) recipients batched.1 due ∧
        Overtaking site.dispatcher.room site.office.Early emitted due ∧
        ((site.dispatcher.concurrency ≤ 1 ∨ ¬site.office.Slow ∨
          ∀ recipient ∈ recipients, recipient.address ∉ site.office.refused) → emitted = due) ∧
        Event.Completes notice (succeeded batched.1) failed completed ∧
        succeeded batched.1 + failed = recipients.length ∧
        batched.2.business = site.office.business ++ (emitted ++ [completed])) ∧
    (∀ context, let shown := site.dispatcher.preview notice context site.office
      ∃ report, Previews notice shown.1 report ∧
        shown.2.business = site.office.business ++ report) ∧
    ∀ commands, let after := (site.run commands).office
      after.reportedSent = site.office.reportedSent + succeeded (site.endings commands) ∧
        after.sent.length = site.office.sent.length + succeeded (site.keptEndings commands) := by
  refine ⟨?_, ?_, ?_, ?_⟩
  · intro recipient
    obtain ⟨report, reports, told⟩ := site.dispatcher.dispatch_told notice site.office recipient
    exact ⟨report, reports, told.business⟩
  · intro recipients
    obtain ⟨emitted, due, completed, failed, owed, overtaking, completes, all, told⟩ :=
      site.dispatcher.batch_told notice site.office recipients
    exact ⟨emitted, due, completed, failed, owed, overtaking,
      site.dispatcher.reports_in_turn notice site.office owed overtaking, completes, all,
      told.business⟩
  · intro context
    obtain ⟨report, previews, told⟩ := site.dispatcher.preview_told notice context site.office
    exact ⟨report, previews, told.business⟩
  · exact run_tallied site

theorem business_accounted_mixed :
    let notice := Notice.mk (Uuid.ofNat 7) .announcement
    let first := Recipient.mk "a@school.example" Context.empty
    let second := Recipient.mk "b@school.example" Context.empty
    let site := Site.mk .standard { Office.empty with refused := ["b@school.example"] }
    let batched := site.dispatcher.batch notice [second, first] site.office
    let commands := [.setDelay 10, .batch notice [first, second] none,
      .preview notice Context.empty, .cancel, .dispatch notice first none, .renew,
      .configure [.mailer (.skipping "0")], .dispatch notice first none, .batch notice [] none]
    (∃ due completed,
      InTurn (fun recipient => Reports notice recipient.address) [second, first] batched.1 due ∧
        Event.Completes notice 1 1 completed ∧ batched.2.business = due ++ [completed]) ∧
      (site.run commands).office.reportedSent = 2 ∧ (site.run commands).office.sent.length = 1 := by
  intro notice first second site batched commands
  obtain ⟨-, batches, -, runs⟩ := business_accounted site notice
  constructor
  · obtain ⟨emitted, due, completed, failed, owed, -, turn, completes, all, business⟩ :=
      batches [second, first]
    have instant : ¬site.office.Slow := fun slow => slow.lasting rfl
    have inTurn : emitted = due := turn (.inr (.inl instant))
    have one : succeeded batched.1 = 1 := by decide +kernel
    have other : failed = 1 := Nat.add_left_cancel ((congrArg (· + failed) one.symm).trans all)
    rw [one, other] at completes
    rw [inTurn] at business
    exact ⟨due, completed, owed, completes, business⟩
  · obtain ⟨reported, mails⟩ := runs commands
    have two : succeeded (site.endings commands) = 2 := by decide +kernel
    have single : succeeded (site.keptEndings commands) = 1 := by decide +kernel
    rw [two] at reported
    rw [single] at mails
    exact ⟨reported, mails⟩

/-- A mail that is refused is reported while the one before it is under way. -/
theorem reports_out_of_turn :
    let office := { Office.empty with refused := ["b@school.example"], delay := 10 }
    let notice := Notice.mk (Uuid.ofNat 7) .announcement
    let recipients := ["a@school.example", "b@school.example"].map fun address =>
      Recipient.mk address Context.empty
    let batched := (Dispatcher.standard.withConcurrency 2).batch notice recipients office
    ¬∃ due completed,
      InTurn (fun recipient => Reports notice recipient.address) recipients batched.1 due ∧
        batched.2.business = office.business ++ (due ++ [completed]) := by
  intro office notice recipients batched
  rintro ⟨due, completed, owed, business⟩
  have succeeds : batched.1.head? = some (.ok "mock-1") := by decide +kernel
  have first : batched.2.business.head?.bind (·.text? "notification.recipient") =
      some "b@school.example" := by decide +kernel
  have both : recipients =
      [⟨"a@school.example", Context.empty⟩, ⟨"b@school.example", Context.empty⟩] := rfl
  -- What is due first is the report for the first recipient, whose mail is sent.
  generalize batched.1 = outcomes at owed succeeds
  rw [both] at owed
  rw [business] at first
  cases owed with
  | cons reports others =>
      cases succeeds
      cases reports with
      | sent concerns addressed =>
          have same : "a@school.example" = "b@school.example" :=
            Option.some.inj (addressed.symm.trans first)
          exact absurd same (by decide)

end Site

end SchoolNotice
