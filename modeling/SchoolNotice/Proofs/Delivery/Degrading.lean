import SchoolNotice.Proofs.Delivery.Isolation
import SchoolNotice.Proofs.Delivery.Lookups
import SchoolNotice.Proofs.Delivery.Preview
import SchoolNotice.Proofs.Delivery.Tenancy

/-!
A directory that fails does no harm. What is shown or delivered from complete contexts is the same whatever the
directory holds. Other contexts cost one lookup each, and if it finds nothing, because the tenant is not known or
because the directory fails, the notice is filled from the context as it was supplied.
-/

namespace SchoolNotice

namespace Command

def recipients : Command → List Recipient
  | .dispatch _ recipient _ => [recipient]
  | .batch _ recipients _ => recipients
  | _ => []

def alarm : Command → Option Nat
  | .dispatch _ _ alarm => alarm
  | .batch _ _ alarm => alarm
  | _ => none

end Command

def Answer.endings : Answer → List Outcome
  | .outcome ending => [ending]
  | .outcomes endings => endings.map Prod.snd
  | _ => []

theorem Office.length_keeping_of (office : Office) (email : Email) :
    (office.keepingOf email).length =
      if email.recipient ∈ office.refused ∨ office.mailer ≠ .keeping ∨
          email.recipient ∈ office.failing then 0
      else 1 := by
  unfold keepingOf
  split
  · rfl
  · rfl

namespace Dispatcher

variable (dispatcher : Dispatcher) (notice : Notice) (context : Context) (recipient : Recipient)
  (office : Office)

def filled (dispatcher : Dispatcher) (notice : Notice) (context : Context) (office : Office) :
    Except DeliveryError (Source × Rendered) :=
  (dispatcher.select notice office).1.map fun selected => (selected.source,
    Rendered.ofPatterns selected.subject selected.body selected.theme context)

theorem prepare_filled :
    (dispatcher.prepare false notice context office).1 =
      dispatcher.filled notice (office.directory.complete notice.tenant context) office := by
  have enriched := @Office.enrich_completes false notice.tenant context office nofun
  have quiet := grew_enrich context office notice.tenant
  rw [prepare_answer dispatcher notice context office enriched,
    compose_same_setup dispatcher notice _ _ quiet.setup]
  exact compose_answer dispatcher notice _ office

theorem draft_filled :
    dispatcher.draft notice recipient office =
      (dispatcher.filled notice (office.directory.complete notice.tenant recipient.context)
        office).map fun (source, rendered) =>
          (source, rendered.toEmail recipient.address dispatcher.sender) := by
  rw [draft, prepare_filled]
  cases dispatcher.filled notice _ office with
  | error error => rfl
  | ok composed => rfl

theorem courses_same_setup {other : Office} (same : office.setup = other.setup) (kept : Nat)
    (recipients : List Recipient) :
    dispatcher.courses notice office kept recipients =
      dispatcher.courses notice other kept recipients := by
  induction recipients generalizing kept with
  | nil => rfl
  | cons recipient rest induction =>
      rw [courses, courses, course_same_setup dispatcher notice recipient same, induction]

section Directories

variable (first second : Directory)

theorem filled_with_directory (directory : Directory) :
    dispatcher.filled notice context (office.withDirectory directory) =
      dispatcher.filled notice context office := rfl

/-- Courses that end alike and keep as many mails, and are the same for a context that is complete. -/
structure Kindred (complete : Bool) (first second : Course) : Prop where
  outcome : first.outcome = second.outcome
  mails : first.mails.length = second.mails.length
  same : complete = true → first = second

/-- In offices that differ in their directories alone, deliveries take kindred courses. -/
theorem course_kindred (kept : Nat) :
    Kindred recipient.context.hasCompleteBranding
      (dispatcher.course notice (office.withDirectory first) kept recipient)
      (dispatcher.course notice (office.withDirectory second) kept recipient) := by
  have drafted := draft_filled dispatcher notice recipient (office.withDirectory first)
  have also := draft_filled dispatcher notice recipient (office.withDirectory second)
  rw [filled_with_directory] at drafted also
  unfold filled at drafted also
  rw [course, course, drafted, also]
  cases (dispatcher.select notice office).1 with
  | error error => exact ⟨rfl, rfl, fun _ => rfl⟩
  | ok selected =>
      constructor
      · rfl
      · simp only [Except.map, Course.ofDraft, Office.length_keeping_of]
        rfl
      · intro complete
        rw [Directory.complete_of_complete complete, Directory.complete_of_complete complete]
        rfl

/-- Outcomes do not depend on the directory at all, and where a context is complete nothing does. -/
theorem courses_kindred (kept : Nat) (recipients : List Recipient) :
    let courses := dispatcher.courses notice (office.withDirectory first) kept recipients
    let others := dispatcher.courses notice (office.withDirectory second) kept recipients
    courses.map Course.outcome = others.map Course.outcome ∧
      ∀ (place : Nat) recipient, recipients[place]? = some recipient →
        recipient.context.hasCompleteBranding = true → courses[place]? = others[place]? := by
  dsimp only
  induction recipients generalizing kept with
  | nil => exact ⟨rfl, nofun⟩
  | cons recipient rest induction =>
      have kindred := course_kindred dispatcher notice recipient office first second kept
      obtain ⟨outcomes, places⟩ := induction (kept +
        (dispatcher.course notice (office.withDirectory second) kept recipient).mails.length)
      rw [courses, courses, kindred.mails]
      constructor
      · rw [List.map_cons, List.map_cons, kindred.outcome, outcomes]
      · intro place other found complete
        cases place with
        | zero =>
            cases found
            exact congrArg some (kindred.same complete)
        | succ place => exact places place other found complete

end Directories

end Dispatcher

namespace Site

def withDirectory (directory : Directory) (site : Site) : Site :=
  { site with office := site.office.withDirectory directory }

def courses (site : Site) (notice : Notice) (command : Command) : List Course :=
  site.dispatcher.courses notice site.office site.office.sent.length command.recipients

structure Took (courses : List Course) (site : Site) (done : Answer × Site) : Prop where
  outcomes : done.1.endings = courses.map Course.outcome
  sent : done.2.office.sent = site.office.sent ++ courses.flatMap Course.mails
  logs : done.2.office.logs.Perm (site.office.logs ++ courses.flatMap Course.entries)

/-- What comes of a command in a site with this directory: the notice is filled from each context as the directory
completes it, and what nothing cancels takes the course of the mail that was drafted so. -/
structure Fills (site : Site) (notice : Notice) (command : Command) (directory : Directory) : Prop where
  shown : ∀ context, command = .preview notice context →
    ((site.withDirectory directory).perform command).1 =
      .preview ((site.dispatcher.filled notice (directory.complete notice.tenant context)
        site.office).map Prod.snd)
  drafted : ∀ recipient ∈ command.recipients,
    site.dispatcher.draft notice recipient (site.office.withDirectory directory) =
      (site.dispatcher.filled notice (directory.complete notice.tenant recipient.context)
        site.office).map fun (source, rendered) =>
          (source, rendered.toEmail recipient.address site.dispatcher.sender)
  delivered : (withAlarm command.alarm site.office).Calm →
    Took ((site.withDirectory directory).courses notice command) site
      ((site.withDirectory directory).perform command)

theorem redirected_with_alarm {own other : Directory} {count : Nat → Nat} {tell : Event → Event}
    (alarm : Option Nat) {office moved : Office}
    (near : Office.Redirected own other count tell office moved) :
    Office.Redirected own other count tell (withAlarm alarm office) (withAlarm alarm moved) := by
  cases near with
  | mk has told => exact .mk has told

theorem advance_enriching (dispatcher : Dispatcher) (notice : Notice) (recipient : Recipient)
    {office : Office} (going : office.cancelled = false) :
    (dispatcher.advance notice recipient .enriching office).1 =
      .selecting (office.directory.complete notice.tenant recipient.context) := by
  have heeding : ¬(true && office.cancelled) = true := Bool.eq_false_iff.mp going
  have completed := Office.enrich_completes notice.tenant recipient.context heeding
  rw [Dispatcher.advance]
  rcases enriched : Dispatcher.enrich true notice.tenant recipient.context office with
    ⟨error | context, next⟩
  · rw [enriched] at completed
    cases completed
  · rw [enriched] at completed
    exact congrArg Progress.selecting (Except.ok.inj completed)

section Performing

variable {site : Site} {notice : Notice} {command : Command} (serves : command.Serves notice)

include serves

/-- Where nothing cancels the deliveries of a command, they take their courses. -/
theorem perform_takes (calm : (withAlarm command.alarm site.office).Calm) :
    Took (site.courses notice command) site (site.perform command) := by
  rcases site with ⟨dispatcher, office⟩
  cases serves with
  | preview context =>
      have quiet := dispatcher.grew_preview notice context office
      constructor
      · rfl
      · exact quiet.sent
      · exact .of_eq quiet.logs
  | dispatch recipient alarm =>
      have going : (withAlarm alarm office).Calm := calm
      have same : (withAlarm alarm office).setup = office.setup := rfl
      obtain ⟨outcome, went⟩ := dispatcher.dispatch_went notice recipient going
      rw [Dispatcher.course_same_setup dispatcher notice recipient same] at outcome went
      constructor
      · exact congrArg ([·]) outcome
      · simp only [courses, Command.recipients, Dispatcher.courses, List.flatMap_singleton]
        exact went.sent
      · simp only [courses, Command.recipients, Dispatcher.courses, List.flatMap_singleton]
        exact .of_eq went.logs
  | batch recipients alarm =>
      have going : (withAlarm alarm office).Calm := calm
      have same : (withAlarm alarm office).setup = office.setup := rfl
      have takes := dispatcher.batch_takes notice going recipients
      rw [Dispatcher.courses_same_setup dispatcher notice _ same] at takes
      constructor
      · have whole := Flight.length_drain dispatcher notice ⟨[], recipients⟩ (withAlarm alarm office)
        rw [Buffer.size, List.length_nil, Nat.zero_add] at whole
        refine Eq.trans (List.map_snd_zip ?_) takes.outcomes
        rw [List.length_map]
        exact Nat.le_of_eq whole
      · exact takes.sent
      · rw [List.perm_iff_count]
        intro entry
        rw [List.count_append]
        exact takes.logs entry

/-- If all contexts are complete, the directory can be exchanged and its lookups counted otherwise. -/
theorem perform_elsewhere
    (complete : ∀ context ∈ command.contexts, context.hasCompleteBranding = true)
    (directory : Directory) (lookups : Nat) :
    let done := site.perform command
    let office := site.office.elsewhere directory lookups site.office.events
    (Site.mk site.dispatcher office).perform command =
      (done.1, Site.mk site.dispatcher
        (done.2.office.elsewhere directory lookups done.2.office.events)) := by
  have delivers := Office.complete_delivers notice site.office.directory directory
    (fun _ => lookups) id
  obtain ⟨answer, later, further, done, also, still⟩ :=
    perform_among delivers redirected_with_alarm site.dispatcher serves complete (.mk rfl rfl)
  dsimp only
  rw [done, also]
  cases still with
  | mk has told =>
      rw [List.map_id, List.map_id] at told
      rw [told]

/-- If all contexts are complete, the directory is not asked, and another one makes no difference. -/
theorem perform_bypasses
    (complete : ∀ context ∈ command.contexts, context.hasCompleteBranding = true) :
    let done := site.perform command
    done.2.office.lookups = site.office.lookups ∧
      ∀ directory, (site.withDirectory directory).perform command =
        (done.1, done.2.withDirectory directory) := by
  intro done
  -- The count in an office beside this one stands still, so it stands still in this one.
  have own : done = (done.1, Site.mk site.dispatcher (done.2.office.elsewhere site.office.directory
      site.office.lookups done.2.office.events)) :=
    perform_elsewhere serves complete site.office.directory site.office.lookups
  have worker : done.2.dispatcher = site.dispatcher :=
    congrArg (fun done => done.2.dispatcher) own
  have unasked : done.2.office.lookups = site.office.lookups :=
    congrArg (fun done => done.2.office.lookups) own
  refine ⟨unasked, fun directory => ?_⟩
  have there : Site.mk site.dispatcher (done.2.office.elsewhere directory site.office.lookups
      done.2.office.events) = done.2.withDirectory directory := by
    rw [← worker, ← unasked]
    rfl
  rw [← there]
  exact perform_elsewhere serves complete directory site.office.lookups

/-- Two directories that find the same profile make no difference but in the events. -/
theorem perform_finding {first second : Directory}
    (finds : first.find? notice.tenant = second.find? notice.tenant) :
    let done := (site.withDirectory first).perform command
    let other := (site.withDirectory second).perform command
    done.1 = other.1 ∧ done.2.office.undirected = other.2.office.undirected := by
  have near : Office.Redirected first second id Event.unexplained
      (site.office.withDirectory first) (site.office.withDirectory second) := .mk rfl rfl
  obtain ⟨answer, later, further, done, also, still⟩ :=
    perform_among (Office.finding_delivers finds) redirected_with_alarm site.dispatcher serves
      (fun _ _ => trivial) near
  simp only [withDirectory, done, also]
  cases still with
  | mk has told =>
      refine ⟨trivial, ?_⟩
      simp only [Office.undirected, Office.elsewhere, id, told]

/-- The directory is asked once for each context that is not complete. -/
theorem perform_counts (going : site.office.cancelled = false)
    (through : command.contexts.length ≤ 1 ∨ (site.perform command).2.office.cancelled = false) :
    (site.perform command).2.office.lookups =
      site.office.lookups + (command.contexts.map Context.lookups).sum := by
  rcases site with ⟨dispatcher, office⟩
  cases serves with
  | preview context =>
      exact dispatcher.lookups_preview notice context
  | dispatch recipient alarm =>
      have began : (withAlarm alarm office).cancelled = false := going
      exact dispatcher.lookups_dispatch notice recipient began
  | batch recipients alarm =>
      have began : (withAlarm alarm office).cancelled = false := going
      rw [Command.contexts, List.length_map] at through
      rw [Command.contexts, List.map_map]
      exact dispatcher.lookups_batch notice began through

theorem perform_fills (directory : Directory) : Fills site notice command directory where
  shown := by
    rintro context rfl
    obtain ⟨answer, _⟩ := site.dispatcher.preview_prepared notice
      (site.office.withDirectory directory) context
    rw [Dispatcher.prepare_filled] at answer
    exact congrArg Answer.preview answer
  drafted recipient _ :=
    site.dispatcher.draft_filled notice recipient (site.office.withDirectory directory)
  delivered calm := by
    have still : (withAlarm command.alarm (site.withDirectory directory).office).Calm :=
      ⟨calm.cancelled, calm.unarmed, calm.unalarmed⟩
    have took := perform_takes serves still
    exact ⟨took.outcomes, took.sent, took.logs⟩

end Performing

/-- Complete contexts cost no lookup, and what is done with them is the same whatever the directory holds and
whether or not it fails. Every other context costs one lookup. All that matters of a directory is which profile it
finds, so one that fails is as good as one that does not know the tenant: the notice is then filled from the
context as it was supplied, and no delivery ends for it. -/
theorem directory_degrades (site : Site) {notice : Notice} {command : Command}
    (serves : command.Serves notice) :
    let done := site.perform command
    let under := fun directory => (site.withDirectory directory).perform command
    let courses := fun directory => (site.withDirectory directory).courses notice command
    ((∀ context ∈ command.contexts, context.hasCompleteBranding = true) →
        done.2.office.lookups = site.office.lookups ∧
          ∀ directory, under directory = (done.1, done.2.withDirectory directory)) ∧
      (site.office.cancelled = false →
        command.contexts.length ≤ 1 ∨ done.2.office.cancelled = false →
          done.2.office.lookups =
            site.office.lookups + (command.contexts.map Context.lookups).sum) ∧
      (∀ first second, first.find? notice.tenant = second.find? notice.tenant →
        (under first).1 = (under second).1 ∧
          (under first).2.office.undirected = (under second).2.office.undirected) ∧
      (∀ directory, Fills site notice command directory ∧
        ∀ context, context.hasCompleteBranding = true ∨ directory.find? notice.tenant = none →
          directory.complete notice.tenant context = context) ∧
      (∀ first second, (courses first).map Course.outcome = (courses second).map Course.outcome ∧
        ∀ (place : Nat) recipient, command.recipients[place]? = some recipient →
          recipient.context.hasCompleteBranding = true →
            (courses first)[place]? = (courses second)[place]?) ∧
      ∀ recipient (office : Office), office.cancelled = false →
        (site.dispatcher.advance notice recipient .enriching office).1 =
          .selecting (office.directory.complete notice.tenant recipient.context) := by
  intro done under courses
  refine ⟨perform_bypasses serves, perform_counts serves, ?_, ?_, ?_, ?_⟩
  · intro first second finds
    exact perform_finding serves finds
  · intro directory
    refine ⟨perform_fills serves directory, ?_⟩
    rintro context (complete | unfound)
    · exact Directory.complete_of_complete complete
    · exact Directory.complete_of_unfound unfound
  · intro first second
    exact site.dispatcher.courses_kindred notice site.office first second
      site.office.sent.length command.recipients
  · intro recipient office going
    exact advance_enriching site.dispatcher notice recipient going

theorem directory_degrades_mixed :
    let notice := Notice.mk (Uuid.ofNat 7) .announcement
    let template : StoredTemplate :=
      { id := Uuid.ofNat 1, tenant := notice.tenant, kind := notice.kind
        subject := "From {{school.name}}", body := "", theme := .classic, active := true
        isDefault := false, version := Version.initial, updatedAt := ⟨3, 0⟩ }
    let north := Profile.ofName ⟨"North", by decide, by decide⟩
    let site := Site.mk .standard { Office.empty with templates := [template], delay := 5 }
    let known : Directory := { profiles := [(notice.tenant, north)], fails := false }
    let failing : Directory := { known with fails := true }
    let unknowing : Directory := { profiles := [], fails := false }
    let branding := Context.brandingFields.map fun field => (field, Json.string "South")
    let bare := Recipient.mk "a@school.example" Context.empty
    let branded := Recipient.mk "b@school.example" ⟨[("school", .object branding)]⟩
    let single := Command.dispatch notice branded none
    let mixed := Command.batch notice [bare, branded] none
    let under := fun (directory : Directory) => (site.withDirectory directory).perform mixed
    let subjects := fun (directory : Directory) =>
      (under directory).2.office.sent.map Email.subject
    ((site.perform single).2.office.lookups = 0 ∧
        ∀ directory, ((site.withDirectory directory).perform single).1 = (site.perform single).1) ∧
      (under failing).2.office.lookups = 1 ∧
        ((under failing).1 = (under unknowing).1 ∧
          (under failing).2.office.sent = (under unknowing).2.office.sent) ∧
          Took ((site.withDirectory known).courses notice mixed) site (under known) ∧
            subjects known = ["From North", "From South"] ∧
              subjects failing = ["From ", "From South"] := by
  intro notice template north site known failing unknowing branding bare branded single mixed under
    subjects
  have alone : single.Serves notice := .dispatch branded none
  have serves : mixed.Serves notice := .batch [bare, branded] none
  have complete : branded.context.hasCompleteBranding = true := by decide +kernel
  have calm : (withAlarm mixed.alarm site.office).Calm := ⟨rfl, rfl, rfl⟩
  obtain ⟨bypassed, _⟩ := directory_degrades site alone
  obtain ⟨unasked, same⟩ := bypassed (List.forall_mem_singleton.mpr complete)
  obtain ⟨_, counted, _⟩ := directory_degrades (site.withDirectory failing) serves
  obtain ⟨_, _, finding, fills, _⟩ := directory_degrades site serves
  obtain ⟨answered, office⟩ := finding failing unknowing rfl
  have sent : (under failing).2.office.undirected.sent = (under unknowing).2.office.undirected.sent :=
    congrArg Office.sent office
  refine ⟨⟨unasked, ?_⟩, ?_, ⟨answered, sent⟩, ?_, ?_, ?_⟩
  · intro directory
    have done : (site.withDirectory directory).perform single =
        ((site.perform single).1, (site.perform single).2.withDirectory directory) :=
      same directory
    rw [done]
  · exact counted rfl (.inr (by decide +kernel))
  · exact (fills known).1.delivered calm
  · decide +kernel
  · decide +kernel

end Site

end SchoolNotice
