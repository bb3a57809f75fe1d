import SchoolNotice.Proofs.Delivery.Course
import SchoolNotice.Proofs.Delivery.Interleaving

/-!
The recipients of a batch do not disturb each other. In an office where nothing cancels the deliveries each
takes its course, whatever becomes of the others; only the numbers in the identifiers go on from one mail to
the next.
-/

namespace SchoolNotice

open Office (Grew Went)

namespace Dispatcher

def courses (dispatcher : Dispatcher) (notice : Notice) (office : Office) :
    Nat → List Recipient → List Course
  | _, [] => []
  | kept, recipient :: rest =>
      let course := dispatcher.course notice office kept recipient
      course :: courses dispatcher notice office (kept + course.mails.length) rest

/-- The seat is the recipient's, and these of its log entries are written. What has settled while others wait
has kept no mail. -/
inductive Seated (dispatcher : Dispatcher) (notice : Notice) (office : Office)
    (recipient : Recipient) : Seat → List LogEntry → Prop where
  | fresh : Seated dispatcher notice office recipient (.fresh recipient) []
  | waiting {source : Source} {email : Email}
      (underway : Underway dispatcher notice recipient office source email) :
      Seated dispatcher notice office recipient (.begun (.waiting source email)) []
  | settled {course : Course} (unkept : course.mails = [])
      (fixed : ∀ kept, dispatcher.course notice office kept recipient = course) :
      Seated dispatcher notice office recipient (.begun (.settled course.outcome)) course.entries

inductive Seating (dispatcher : Dispatcher) (notice : Notice) (office : Office) :
    List Recipient → List Seat → List LogEntry → Prop where
  | nil : Seating dispatcher notice office [] [] []
  | cons {recipient : Recipient} {seat : Seat} {own written : List LogEntry}
      {recipients : List Recipient} {seats : List Seat}
      (seated : Seated dispatcher notice office recipient seat own)
      (behind : Seating dispatcher notice office recipients seats written) :
      Seating dispatcher notice office (recipient :: recipients) (seat :: seats) (own ++ written)

variable {dispatcher : Dispatcher} {notice : Notice} {base : Office}
  {taken : List Recipient} {seats : List Seat} {written : List LogEntry}

theorem seating_fresh (recipients : List Recipient) :
    Seating dispatcher notice base recipients (recipients.map .fresh) [] := by
  induction recipients with
  | nil => exact .nil
  | cons recipient rest induction => exact .cons .fresh induction

theorem seating_append (seating : Seating dispatcher notice base taken seats written)
    (more : List Recipient) :
    Seating dispatcher notice base (taken ++ more) (seats ++ more.map .fresh) written := by
  induction seating with
  | nil => exact seating_fresh more
  | cons seated behind induction => exact .cons seated induction

/-- The seats of a buffer that was filled, with the recipients that have none, are those of the buffer before. -/
theorem seating_fill {buffer : Buffer}
    (seating : Seating dispatcher notice base taken buffer.seats written) (room : Nat) :
    ∃ seated, Seating dispatcher notice base seated (buffer.fill room).seats written ∧
      seated ++ (buffer.fill room).rest = taken ++ buffer.rest := by
  let free := room - buffer.seats.length
  refine ⟨taken ++ buffer.rest.take free, seating_append seating _, ?_⟩
  rw [List.append_assoc]
  exact congrArg (taken ++ ·) (List.take_append_drop free buffer.rest)

theorem begin_all_seating (seating : Seating dispatcher notice base taken seats written)
    (slow : base.Slow) {office : Office} (calm : office.Calm) (same : office.setup = base.setup) :
    ∃ added later,
      Seating dispatcher notice base taken (dispatcher.beginAll notice seats office).1 later ∧
        Went [] added office (dispatcher.beginAll notice seats office).2 ∧
          ∀ entry, later.count entry = written.count entry + added.count entry := by
  induction seating generalizing office with
  | nil => exact ⟨[], [], .nil, ⟨Grew.refl office, calm⟩, fun _ => rfl⟩
  | @cons recipient seat own written recipients seats seated behind induction =>
      have begun_already : ∀ standing, seat = .begun standing → ∃ added later,
          Seating dispatcher notice base (recipient :: recipients)
              (dispatcher.beginAll notice (seat :: seats) office).1 later ∧
            Went [] added office (dispatcher.beginAll notice (seat :: seats) office).2 ∧
              ∀ entry, later.count entry = (own ++ written).count entry + added.count entry := by
        rintro standing rfl
        obtain ⟨added, later, seating, went, tally⟩ := induction calm same
        refine ⟨added, own ++ later, .cons seated seating, went, ?_⟩
        intro entry
        rw [List.count_append, List.count_append, tally entry, Nat.add_assoc]
      cases seated with
      | waiting underway => exact begun_already _ rfl
      | settled unkept fixed => exact begun_already _ rfl
      | fresh =>
          have begun := start_begins dispatcher notice recipient calm
          simp only [beginAll]
          rcases started : dispatcher.start notice recipient office with
            ⟨⟨source, email⟩ | outcome, next⟩
          · rw [started] at begun
            obtain ⟨underway, went⟩ := begun
            obtain ⟨added, later, seating, grew, tally⟩ :=
              induction went.calm (went.setup.trans same)
            have seated := underway.of_setup dispatcher notice recipient same
            exact ⟨added, later, .cons (.waiting seated) seating, went.trans grew, tally⟩
          · rw [started] at begun
            simp only [Begins, course_same_setup dispatcher notice recipient same] at begun
            obtain ⟨rfl, went, ended⟩ := begun
            obtain ⟨unkept, fixed⟩ := ended (slow.of_setup same.symm)
            rw [unkept] at went
            obtain ⟨added, later, seating, grew, tally⟩ :=
              induction went.calm (went.setup.trans same)
            refine ⟨_, _, .cons (.settled unkept fixed) seating, went.trans grew, ?_⟩
            intro entry
            rw [List.nil_append, List.count_append, List.count_append, tally entry]
            omega

theorem land_takes {recipient : Recipient} {source : Source} {email : Email}
    (underway : Underway dispatcher notice recipient base source email) {office : Office}
    (calm : office.Calm) (same : office.setup = base.setup) :
    let course := dispatcher.course notice base office.sent.length recipient
    let landed := land notice (.waiting source email) office
    landed.1 = course.outcome ∧ Went course.mails course.entries office landed.2 := by
  have landed := land_went dispatcher notice recipient
    (underway.of_setup dispatcher notice recipient same.symm) calm
  rw [course_same_setup dispatcher notice recipient same] at landed
  exact landed

/-- The delivery at the front takes its course. The log entries that are added are its own and those of the
deliveries that settle while it waits. -/
theorem pass_front_takes {recipient : Recipient} {front : Seat} {own : List LogEntry}
    (seated : Seated dispatcher notice base recipient front own)
    (seating : Seating dispatcher notice base taken seats written) {office : Office}
    (calm : office.Calm) (same : office.setup = base.setup) :
    let course := dispatcher.course notice base office.sent.length recipient
    let passed := dispatcher.passFront notice front seats office
    passed.1 = course.outcome ∧ ∃ added later,
      Seating dispatcher notice base taken passed.2.1 later ∧
        Went course.mails added office passed.2.2 ∧
          ∀ entry, added.count entry + (own ++ written).count entry =
            course.entries.count entry + later.count entry := by
  dsimp only
  cases seated with
  | settled unkept fixed =>
      rw [fixed office.sent.length]
      refine ⟨rfl, [], written, seating, ?_, ?_⟩
      · rw [unkept]
        exact ⟨Grew.refl office, calm⟩
      · intro entry
        rw [List.count_append, List.count_nil, Nat.zero_add]
  | waiting underway =>
      obtain ⟨outcome, went⟩ := land_takes underway calm same
      exact ⟨outcome, _, written, seating, went, fun _ => rfl⟩
  | fresh =>
      have begun := start_begins dispatcher notice recipient calm
      simp only [passFront]
      rcases started : dispatcher.start notice recipient office with
        ⟨⟨source, email⟩ | outcome, next⟩
      · rw [started] at begun
        obtain ⟨underway, went⟩ := begun
        have underway := underway.of_setup dispatcher notice recipient same
        obtain ⟨added, later, seating, grew, tally⟩ :=
          begin_all_seating seating underway.slow went.calm (went.setup.trans same)
        have waited := (went.trans grew).then_wait
        have counted := waited.sent.trans (List.append_nil _)
        obtain ⟨outcome, landed⟩ := land_takes underway waited.calm (waited.setup.trans same)
        rw [counted] at outcome landed
        refine ⟨outcome, _, later, seating, waited.trans landed, ?_⟩
        intro entry
        rw [List.nil_append, List.nil_append, List.count_append, tally entry]
        omega
      · rw [started] at begun
        simp only [Begins, course_same_setup dispatcher notice recipient same] at begun
        obtain ⟨rfl, went, _⟩ := begun
        exact ⟨rfl, _, written, seating, went, fun _ => rfl⟩

structure Takes (courses : List Course) (written : List LogEntry) (office : Office)
    (drained : List Outcome × Office) : Prop where
  outcomes : drained.1 = courses.map Course.outcome
  sent : drained.2.sent = office.sent ++ courses.flatMap Course.mails
  logs : ∀ entry, drained.2.logs.count entry + written.count entry =
    office.logs.count entry + (courses.flatMap Course.entries).count entry

theorem drain_takes {buffer : Buffer}
    (seating : Seating dispatcher notice base taken buffer.seats written) {office : Office}
    (calm : office.Calm) (same : office.setup = base.setup) :
    Takes (dispatcher.courses notice base office.sent.length (taken ++ buffer.rest)) written office
      (dispatcher.drain notice buffer office) := by
  induction buffer, office using @drain_induction Office _ dispatcher notice
    generalizing taken written with
  | @empty buffer rest office filled =>
      obtain ⟨seated, filling, parted⟩ := seating_fill seating dispatcher.room
      have seat : 1 ≤ dispatcher.room := Nat.le_max_right dispatcher.concurrency 1
      rw [filled] at filling parted
      rw [← parted, Flight.rest_of_no_front seat filled, drain_empty filled]
      cases filling
      exact ⟨rfl, (List.append_nil _).symm, fun _ => rfl⟩
  | @front buffer front behind rest office filled induction =>
      obtain ⟨seated, filling, parted⟩ := seating_fill seating dispatcher.room
      rw [filled] at filling parted
      rw [← parted]
      cases filling with
      | @cons recipient _ own written recipients _ own_seat others =>
          obtain ⟨outcome, added, later, seating_later, went, tally⟩ :=
            pass_front_takes own_seat others calm same
          have drained := induction seating_later went.calm (went.setup.trans same)
          rw [went.sent, List.length_append] at drained
          rw [drain_front filled, List.cons_append, courses]
          constructor
          · rw [List.map_cons, ← outcome, ← drained.outcomes]
          · dsimp only
            rw [drained.sent, went.sent, List.flatMap_cons, List.append_assoc]
          · intro entry
            have counted := drained.logs entry
            have balance := tally entry
            simp only [went.logs, List.flatMap_cons, List.count_append] at counted balance ⊢
            omega

end Dispatcher

def LogEntry.unnumbered (entry : LogEntry) : LogEntry :=
  { entry with messageId := entry.messageId.map fun _ => "" }

def Outcome.unnumbered (outcome : Outcome) : Outcome := outcome.map fun _ => ""

def Course.unnumbered (course : Course) : Course :=
  { outcome := Outcome.unnumbered course.outcome
    mails := course.mails
    entries := course.entries.map LogEntry.unnumbered }

/-- A mailer's reply does not depend on the mails kept before, unless it counts them. -/
theorem Office.reply_kinds (office : Office) (email : Email) :
    (office.keepingOf email = [] ∧ ∃ reply, (∀ kept, office.replyTo kept email = reply) ∧
        (office.mailer = .keeping → ∃ cause, reply = .error cause)) ∨
      (office.keepingOf email = [email] ∧
        ∀ kept, office.replyTo kept email = .ok ("mock-" ++ toString (kept + 1))) := by
  unfold replyTo keepingOf
  by_cases refused : email.recipient ∈ office.refused
  · left
    simp [refused]
  · cases office.mailer with
    | skipping id =>
        left
        simp [refused]
    | keeping =>
        by_cases fails : email.recipient ∈ office.failing
        · left
          simp [refused, fails]
        · right
          simp [refused, fails]

namespace Dispatcher

variable (dispatcher : Dispatcher) (notice : Notice) (office : Office) (recipient : Recipient)

theorem course_kinds :
    (∃ course, course.mails = [] ∧
        (∀ kept, dispatcher.course notice office kept recipient = course) ∧
        (office.mailer = .keeping → ∃ error, course.outcome = .error error)) ∨
      ∃ source email, ∀ kept, dispatcher.course notice office kept recipient =
        { outcome := .ok ("mock-" ++ toString (kept + 1))
          mails := [email]
          entries := office.entriesOf notice source email (.ok ("mock-" ++ toString (kept + 1))) } := by
  cases drafted : dispatcher.draft notice recipient office with
  | error error =>
      left
      exact ⟨_, rfl, fun _ => course_of_error drafted, fun _ => ⟨error, rfl⟩⟩
  | ok draft =>
      obtain ⟨source, email⟩ := draft
      rcases office.reply_kinds email with ⟨unkept, reply, replied, failed⟩ | ⟨kept, replied⟩
      · left
        refine ⟨{ outcome := reply.mapError .transport, mails := []
                  entries := office.entriesOf notice source email reply }, rfl, ?_, ?_⟩
        · intro kept
          rw [course_of_draft drafted, replied, unkept]
        · intro keeping
          obtain ⟨cause, rfl⟩ := failed keeping
          exact ⟨.transport cause, rfl⟩
      · right
        refine ⟨source, email, fun count => ?_⟩
        rw [course_of_draft drafted, replied, kept]
        rfl

theorem course_unnumbered (kept other : Nat) :
    (dispatcher.course notice office kept recipient).unnumbered =
      (dispatcher.course notice office other recipient).unnumbered := by
  rcases course_kinds dispatcher notice office recipient with
    ⟨course, _, fixed, _⟩ | ⟨source, email, counted⟩
  · rw [fixed, fixed]
  · rw [counted, counted]
    unfold Office.entriesOf
    split
    · rfl
    · rfl

theorem entry_identified (kept : Nat) :
    let course := dispatcher.course notice office kept recipient
    ∀ entry ∈ course.entries, entry.messageId = course.outcome.toOption := by
  intro course entry written
  cases drafted : dispatcher.draft notice recipient office with
  | error error =>
      rw [show course = _ from course_of_error drafted] at written
      cases written
  | ok draft =>
      obtain ⟨source, email⟩ := draft
      rw [show course = _ from course_of_draft drafted] at written ⊢
      dsimp only [Office.entriesOf] at written ⊢
      split at written
      · cases written
      · rw [List.mem_singleton.mp written]
        cases office.replyTo kept email with
        | error cause => rfl
        | ok id => rfl

theorem course_counted (keeping : office.mailer = .keeping) (kept : Nat) :
    let course := dispatcher.course notice office kept recipient
    course.mails.length = (if course.outcome.isOk then 1 else 0) ∧
      ∀ id, course.outcome = .ok id → id = "mock-" ++ toString (kept + 1) := by
  dsimp only
  rcases course_kinds dispatcher notice office recipient with
    ⟨course, unkept, fixed, failed⟩ | ⟨source, email, counted⟩
  · obtain ⟨error, outcome⟩ := failed keeping
    rw [fixed, unkept, outcome]
    exact ⟨rfl, nofun⟩
  · rw [counted]
    refine ⟨rfl, ?_⟩
    rintro id ⟨⟩
    rfl

/-- A delivery to the recipient alone has this course, but for the identifier of the message. -/
def Alone (dispatcher : Dispatcher) (notice : Notice) (office : Office) (recipient : Recipient)
    (course : Course) : Prop :=
  let delivered := dispatcher.dispatch notice recipient office
  ∃ solo : Course, solo.unnumbered = course.unnumbered ∧ delivered.1 = solo.outcome ∧
    delivered.2.sent = office.sent ++ solo.mails ∧ delivered.2.logs = office.logs ++ solo.entries

theorem courses_alone (calm : office.Calm) (recipients : List Recipient) (kept : Nat) :
    List.Forall₂ (Alone dispatcher notice office) recipients
      (dispatcher.courses notice office kept recipients) := by
  induction recipients generalizing kept with
  | nil => exact .nil
  | cons recipient rest induction =>
      obtain ⟨outcome, went⟩ := dispatch_went dispatcher notice recipient calm
      have same := course_unnumbered dispatcher notice office recipient office.sent.length kept
      exact .cons ⟨_, same, outcome, went.sent, went.logs⟩ (induction _)

/-- The log entries of a course have the identifier of its outcome, and a mailer that keeps mails has kept one
just if the delivery succeeded. -/
structure Borne (office : Office) (course : Course) : Prop where
  identified : ∀ entry ∈ course.entries, entry.messageId = course.outcome.toOption
  counted : office.mailer = .keeping → course.mails.length = if course.outcome.isOk then 1 else 0

theorem courses_borne (recipients : List Recipient) (kept : Nat) :
    ∀ course ∈ dispatcher.courses notice office kept recipients, Borne office course := by
  induction recipients generalizing kept with
  | nil => exact nofun
  | cons recipient rest induction =>
      rw [courses, List.forall_mem_cons]
      refine ⟨?_, induction _⟩
      constructor
      · exact entry_identified dispatcher notice office recipient kept
      · intro keeping
        exact (course_counted dispatcher notice office recipient keeping kept).1

theorem courses_unnumbered (recipients : List Recipient) (kept : Nat) :
    (dispatcher.courses notice office kept recipients).map
        (fun course => Outcome.unnumbered course.outcome) =
      recipients.map fun recipient =>
        Outcome.unnumbered (dispatcher.course notice office 0 recipient).outcome := by
  induction recipients generalizing kept with
  | nil => rfl
  | cons recipient rest induction =>
      have same := course_unnumbered dispatcher notice office recipient kept 0
      rw [courses, List.map_cons, List.map_cons, induction]
      exact congrArg (· :: _) (congrArg Course.outcome same)

theorem succeeded_cons (outcome : Outcome) (outcomes : List Outcome) :
    succeeded (outcome :: outcomes) = (if outcome.isOk then 1 else 0) + succeeded outcomes := by
  cases outcome with
  | error error => exact (Nat.zero_add _).symm
  | ok id => exact Nat.add_comm _ 1

/-- An identifier counts the mails that were kept before the batch and those of the recipients up to its own. -/
theorem courses_numbered (keeping : office.mailer = .keeping) (recipients : List Recipient)
    (kept place : Nat) {id : String} :
    let outcomes := (dispatcher.courses notice office kept recipients).map Course.outcome
    outcomes[place]? = some (.ok id) →
      id = "mock-" ++ toString (kept + succeeded (outcomes.take (place + 1))) := by
  dsimp only
  induction recipients generalizing kept place with
  | nil => exact nofun
  | cons recipient rest induction =>
      obtain ⟨mails, named⟩ := course_counted dispatcher notice office recipient keeping kept
      rw [courses, List.map_cons, List.take_succ_cons, succeeded_cons, ← mails]
      intro found
      cases place with
      | zero =>
          have outcome := Option.some.inj found
          rw [named id outcome, mails, outcome]
          rfl
      | succ place =>
          rw [induction _ place found, Nat.add_assoc]

variable {office}

theorem batch_takes (calm : office.Calm) (recipients : List Recipient) :
    Takes (dispatcher.courses notice office office.sent.length recipients) [] office
      (dispatcher.batch notice recipients office) := by
  have drained : Takes (dispatcher.courses notice office office.sent.length recipients) [] office
      (dispatcher.drain notice ⟨[], recipients⟩ office) := by
    have seating : Seating dispatcher notice office [] (Buffer.mk [] recipients).seats [] := .nil
    exact drain_takes seating calm rfl
  exact ⟨drained.outcomes, drained.sent, drained.logs⟩

/-- Where nothing cancels the deliveries, a recipient of a batch has the outcome, the mail and the log entry of
a delivery to that recipient alone, but for the identifier of the message, which counts the mails. -/
theorem recipients_isolated (calm : office.Calm) (recipients : List Recipient) :
    let batched := dispatcher.batch notice recipients office
    (∃ courses, List.Forall₂ (Alone dispatcher notice office) recipients courses ∧
      (∀ course ∈ courses, Borne office course) ∧
        batched.1 = courses.map Course.outcome ∧
          batched.2.sent = office.sent ++ courses.flatMap Course.mails ∧
            batched.2.logs.Perm (office.logs ++ courses.flatMap Course.entries)) ∧
      (office.mailer = .keeping → ∀ place id, batched.1[place]? = some (.ok id) →
        id = "mock-" ++ toString (office.sent.length + succeeded (batched.1.take (place + 1)))) ∧
        ∀ others, recipients.Perm others →
          (recipients.zip (batched.1.map Outcome.unnumbered)).Perm
            (others.zip ((dispatcher.batch notice others office).1.map Outcome.unnumbered)) := by
  intro batched
  have takes := batch_takes dispatcher notice calm recipients
  refine ⟨?_, ?_, ?_⟩
  · refine ⟨_, courses_alone dispatcher notice office calm recipients office.sent.length,
      courses_borne dispatcher notice office recipients office.sent.length, takes.outcomes,
      takes.sent, ?_⟩
    rw [List.perm_iff_count]
    intro entry
    rw [List.count_append]
    exact takes.logs entry
  · intro keeping place id found
    rw [show batched.1 = _ from takes.outcomes] at found ⊢
    exact courses_numbered dispatcher notice office keeping recipients _ place found
  · intro others permuted
    have outcomes : ∀ some : List Recipient,
        (dispatcher.batch notice some office).1.map Outcome.unnumbered =
          some.map fun recipient =>
            Outcome.unnumbered (dispatcher.course notice office 0 recipient).outcome := by
      intro some
      rw [(batch_takes dispatcher notice calm some).outcomes, List.map_map]
      exact courses_unnumbered dispatcher notice office some _
    rw [outcomes recipients, outcomes others, ← List.map_prod_left_eq_zip,
      ← List.map_prod_left_eq_zip]
    exact permuted.map _

theorem recipients_isolated_crowded :
    let office := { Office.empty with
      failing := ["b@school.example"], refused := ["c@school.example"], delay := 5 }
    let notice := Notice.mk (Uuid.ofNat 7) .announcement
    let recipients := ["a@school.example", "b@school.example", "c@school.example",
      "d@school.example"].map fun address => Recipient.mk address Context.empty
    let batched := (standard.withConcurrency 3).batch notice recipients office
    let reversed := (standard.withConcurrency 3).batch notice recipients.reverse office
    office.Calm ∧ batched.1.map Except.toOption = [some "mock-1", none, none, some "mock-2"] ∧
      batched.2.logs.map LogEntry.recipient =
        ["c@school.example", "a@school.example", "b@school.example", "d@school.example"] ∧
      (∃ courses, List.Forall₂ (Alone (standard.withConcurrency 3) notice office) recipients courses ∧
        batched.1 = courses.map Course.outcome) ∧
        (recipients.zip (batched.1.map Outcome.unnumbered)).Perm
          (recipients.reverse.zip (reversed.1.map Outcome.unnumbered)) := by
  intro office notice recipients batched reversed
  have calm : office.Calm := ⟨rfl, rfl, rfl⟩
  obtain ⟨⟨courses, alone, _, outcomes, _⟩, _, permuting⟩ :=
    recipients_isolated (standard.withConcurrency 3) notice calm recipients
  refine ⟨calm, ?_, ?_, ⟨courses, alone, outcomes⟩, ?_⟩
  · decide +kernel
  · decide +kernel
  · exact permuting _ recipients.reverse_perm.symm

end Dispatcher

end SchoolNotice
