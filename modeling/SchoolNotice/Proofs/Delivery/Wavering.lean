import SchoolNotice.Delivery.Run
import SchoolNotice.Proofs.Delivery.Cabinet
import SchoolNotice.Proofs.Delivery.Growth
import SchoolNotice.Proofs.Delivery.Parallel

/-!
A log that fails and recovers while deliveries go on. No other call reads or writes it, so two offices that
differ only in what stands in the log, in its switch and in the events answer them alike. Whether an entry that
is recorded was written shows in the log and the events only.
-/

namespace SchoolNotice

namespace Office

def withLog (fails : Bool) (entries : List LogEntry) (events : List Event) (office : Office) :
    Office :=
  { office with logsFail := fails, logs := entries, events := events }

/-- The call does not depend on the log, its switch or the events, and it only adds events. -/
def LeavesLog {α : Type} (call : Office → α × Office) : Prop :=
  ∀ office, ∃ more, ∀ fails entries events,
    call (office.withLog fails entries events) =
      ((call office).1, (call office).2.withLog fails entries (events ++ more))

/-- The log is in the cabinet. -/
theorem LeavesCabinet.leaves_log {α : Type} {call : Office → α × Office}
    (leaves : LeavesCabinet call) : LeavesLog call := by
  intro office
  obtain ⟨more, own, answers⟩ := leaves.parts office
  refine ⟨more, fun fails entries events => ?_⟩
  have there : (call office).2.withLog fails entries (events ++ more) =
      (call office).2.withCabinet { (call office).2.cabinet with
        logsFail := fails, logs := entries, events := events ++ more } := rfl
  rw [there, own]
  exact answers { office.cabinet with logsFail := fails, logs := entries, events := events }

theorem answering_with_log (fails : Bool) (entries : List LogEntry) (events : List Event)
    (office : Office) (service : Collaborator) :
    (office.withLog fails entries events).answering service =
      (office.answering service).withLog fails entries events :=
  answering_changed office (withLog fails entries events) (fun _ => rfl) (fun _ => rfl) service

theorem find_profile_leaves_log (tenant : Uuid) : LeavesLog (findProfile tenant) := by
  intro office
  refine ⟨[], fun fails entries events => ?_⟩
  rw [List.append_nil]
  exact Prod.ext rfl (answering_with_log fails entries events office.consulted .tenants)

theorem note_leaves_log (event : Event) : LeavesLog fun office => ((), office.note event) :=
  (note_leaves_cabinet event).leaves_log

theorem wait_leaves_log : LeavesLog fun office => ((), office.wait) :=
  wait_leaves_cabinet.leaves_log

theorem find_active_leaves_log (tenant : Uuid) (kind : Kind) :
    LeavesLog (findActive tenant kind) :=
  (find_active_leaves_cabinet tenant kind).leaves_log

theorem collect_leaves_log (email : Email) : LeavesLog (collect email) :=
  (collect_leaves_cabinet email).leaves_log

theorem post_leaves_log (email : Email) : LeavesLog (post email) :=
  (post_leaves_cabinet email).leaves_log

/-- The call leaves the log's switch where it is. -/
theorem LeavesLog.keeps_switch {α : Type} {call : Office → α × Office} (leaves : LeavesLog call)
    (office : Office) : (call office).2.logsFail = office.logsFail := by
  obtain ⟨more, answers⟩ := leaves office
  have same := answers office.logsFail office.logs office.events
  exact congrArg (fun pair => pair.2.logsFail) same

/-- An office, and one that differs from it in the log's switch, the events and the log, if at all. Where its log
is known to fail whenever the first one's does, entries are only left out. -/
inductive Aside (covered : Prop) (office : Office) : Office → Prop where
  | mk (fails : Bool) {entries : List LogEntry} (events : List Event)
      (left : covered → entries.Sublist office.logs) :
      Aside covered office (office.withLog fails entries events)

section Aside

variable {covered : Prop} {office other : Office}

theorem Aside.refl (covered : Prop) (office : Office) : Aside covered office office :=
  .mk office.logsFail office.events fun _ => .refl office.logs

theorem LeavesLog.parallel {α : Type} {call : Office → α × Office} (leaves : LeavesLog call)
    (aside : Aside covered office other) :
    Parallel (Aside covered) (call office) (call other) := by
  cases aside with
  | @mk fails entries events left =>
      -- What the call does in the office itself shows that it leaves the log there as it was.
      obtain ⟨more, answers⟩ := leaves office
      have same := answers office.logsFail office.logs office.events
      have kept : (call office).2.logs = office.logs := congrArg (fun pair => pair.2.logs) same
      rw [answers fails entries events]
      refine ⟨rfl, .mk fails _ ?_⟩
      rw [kept]
      exact left

namespace Aside

variable (aside : Aside covered office other)

include aside

theorem cancelled_same : office.cancelled = other.cancelled := by
  cases aside
  rfl

theorem clock_same : office.clock = other.clock := by
  cases aside
  rfl

theorem left_out (surely : covered) : other.logs.Sublist office.logs := by
  cases aside with
  | mk fails events left => exact left surely

theorem set_failing (first second : Bool) :
    Aside covered (Site.setFailing office first .logs) (Site.setFailing other second .logs) := by
  cases aside with
  | mk fails events left => exact .mk second events left

end Aside

end Aside

def keptEntries (entry : LogEntry) (office : Office) : List LogEntry :=
  if office.logsFail then office.logs else office.logs ++ [entry]

theorem record_called (entry : LogEntry) {office : Office} (going : ¬office.cancelled = true) :
    ∃ events, Dispatcher.record entry office =
      (office.answering .logs).withLog office.logsFail (office.keptEntries entry) events := by
  unfold Dispatcher.record keptEntries
  rw [if_neg (show ¬Services.cancelled office = true from going)]
  simp only [Services.insertLog, Services.note]
  cases fails : office.logsFail with
  | true =>
      have same : office.withLog true office.logs office.events = office := fails ▸ rfl
      have answered := answering_with_log true office.logs office.events office .logs
      rw [same] at answered
      rw [insert_log_failing entry fails, if_pos rfl]
      refine ⟨office.events ++ [.logFailed outage], ?_⟩
      rw [answered]
      rfl
  | false =>
      have same : office.withEntry entry =
          office.withLog false (office.logs ++ [entry]) office.events :=
        fails ▸ rfl
      rw [insert_log_kept entry fails, if_neg nofun]
      refine ⟨office.events, ?_⟩
      rw [same, answering_with_log]

section Recorded

variable {covered : Prop} {office other : Office} (entry : LogEntry)
  (aside : Aside covered office other)
  (faults : covered → office.logsFail = true → other.logsFail = true)

include aside faults

theorem kept_entries_left_out (surely : covered) :
    (other.keptEntries entry).Sublist (office.keptEntries entry) := by
  have sublist := aside.left_out surely
  unfold keptEntries
  by_cases also : other.logsFail = true
  · rw [if_pos also]
    split
    · exact sublist
    · exact sublist.trans (List.sublist_append_left office.logs [entry])
  · rw [if_neg (mt (faults surely) also), if_neg also]
    exact sublist.append (List.Sublist.refl [entry])

theorem record_called_aside (going : ¬office.cancelled = true) :
    Aside covered (Dispatcher.record entry office) (Dispatcher.record entry other) := by
  have kept := kept_entries_left_out entry aside faults
  have also : ¬other.cancelled = true := aside.cancelled_same ▸ going
  obtain ⟨events, called⟩ := record_called entry going
  obtain ⟨others, answered⟩ := record_called entry also
  rw [called, answered]
  cases aside with
  | mk fails before left =>
      rw [answering_with_log]
      exact .mk fails others kept

end Recorded

end Office

/-- An office whose log fails at some of its calls and not at others. -/
structure Wavering where
  office : Office
  /-- Whether the log fails, at each of its calls to come. -/
  faults : Nat → Bool

namespace Wavering

def on {α : Type} (call : Office → α × Office) (wavering : Wavering) : α × Wavering :=
  ((call wavering.office).1, { wavering with office := (call wavering.office).2 })

/-- The office with its log's switch where the next call of the log finds it. -/
def switched (wavering : Wavering) : Office :=
  Site.setFailing wavering.office (wavering.faults 0) .logs

instance : Services Wavering where
  cancelled wavering := wavering.office.cancelled
  note event wavering := { wavering with office := wavering.office.note event }
  now wavering := wavering.office.clock
  findProfile tenant := on (Office.findProfile tenant)
  findActive tenant kind := on (Office.findActive tenant kind)
  post email := on (Office.post email)
  collect email := on (Office.collect email)
  insertLog entry wavering :=
    let (answer, office) := wavering.switched.insertLog entry
    (answer, ⟨office, fun call => wavering.faults (call + 1)⟩)
  wait wavering := { wavering with office := wavering.office.wait }

theorem record_cancelled (entry : LogEntry) {wavering : Wavering}
    (stopped : wavering.office.cancelled = true) :
    Dispatcher.record entry wavering = Services.note .logSkipped wavering := by
  unfold Dispatcher.record
  exact if_pos stopped

theorem record_called (entry : LogEntry) {wavering : Wavering}
    (going : ¬wavering.office.cancelled = true) :
    Dispatcher.record entry wavering =
      ⟨Dispatcher.record entry wavering.switched, fun call => wavering.faults (call + 1)⟩ := by
  unfold Dispatcher.record
  rw [if_neg (show ¬Services.cancelled wavering = true from going)]
  rw [if_neg (show ¬Services.cancelled wavering.switched = true from going)]
  simp only [Services.insertLog]
  rcases wavering.switched.insertLog entry with ⟨error | written, office⟩
  · rfl
  · rfl

structure Beside (covered : Prop) (first second : Wavering) : Prop where
  office : Office.Aside covered first.office second.office
  faults : covered → ∀ call, first.faults call = true → second.faults call = true

section Beside

variable {covered : Prop} {first second : Wavering} (beside : Beside covered first second)

include beside

theorem on_beside {α : Type} {call : Office → α × Office} (leaves : Office.LeavesLog call) :
    Parallel (Beside covered) (on call first) (on call second) := by
  obtain ⟨answer, aside⟩ := leaves.parallel beside.office
  exact ⟨answer, aside, beside.faults⟩

theorem record_beside (entry : LogEntry) :
    Beside covered (Dispatcher.record entry first) (Dispatcher.record entry second) := by
  have same := beside.office.cancelled_same
  by_cases stopped : first.office.cancelled = true
  · rw [record_cancelled entry stopped, record_cancelled entry (same.symm.trans stopped)]
    exact (on_beside beside (Office.note_leaves_log .logSkipped)).2
  · have also : ¬second.office.cancelled = true := same ▸ stopped
    have aside := beside.office.set_failing (first.faults 0) (second.faults 0)
    have faults := fun surely => beside.faults surely 0
    rw [record_called entry stopped, record_called entry also]
    constructor
    · exact Office.record_called_aside entry aside faults stopped
    · intro surely call
      exact beside.faults surely (call + 1)

end Beside

theorem beside_goes (covered : Prop) (notice : Notice) : GoesAlike notice (Beside covered) where
  note event _ _ beside := (on_beside beside (Office.note_leaves_log event)).2
  findProfile beside := on_beside beside (Office.find_profile_leaves_log notice.tenant)
  findActive beside := on_beside beside (Office.find_active_leaves_log notice.tenant notice.kind)
  cancelled beside := beside.office.cancelled_same
  now beside := beside.office.clock_same
  post email _ _ beside := on_beside beside (Office.post_leaves_log email)
  collect email _ _ beside := on_beside beside (Office.collect_leaves_log email)
  wait beside := (on_beside beside Office.wait_leaves_log).2
  record entry _ _ _ beside := record_beside beside entry

/-- The log fails at each call just as the office's switch says. -/
structure Steadied (wavering : Wavering) (plain : Office) : Prop where
  office : wavering.office = plain
  faults : ∀ call, wavering.faults call = plain.logsFail

section Steadied

variable {wavering : Wavering} {plain : Office} (steadied : Steadied wavering plain)

include steadied

theorem on_steadied {α : Type} {call : Office → α × Office} (leaves : Office.LeavesLog call) :
    Parallel Steadied (on call wavering) (call plain) := by
  rcases steadied with ⟨rfl, faults⟩
  exact ⟨rfl, rfl, fun next => (faults next).trans (leaves.keeps_switch wavering.office).symm⟩

theorem insert_log_steadied (entry : LogEntry) :
    Parallel Steadied (Services.insertLog entry wavering) (plain.insertLog entry) := by
  rcases steadied with ⟨rfl, faults⟩
  have switched : wavering.switched = wavering.office := by
    unfold switched
    rw [faults 0]
    rfl
  have kept : (wavering.office.insertLog entry).2.logsFail = wavering.office.logsFail := by
    rcases wavering.office.insert_log_grew entry with ⟨_, grew⟩ | ⟨_, grew⟩
    · exact (congrArg Office.logsFail grew.setup :)
    · exact (congrArg Office.logsFail grew.setup :)
  simp only [Services.insertLog, switched]
  exact ⟨rfl, rfl, fun call => (faults (call + 1)).trans kept.symm⟩

end Steadied

theorem steadied_answers (notice : Notice) : AnswersAlike notice Steadied where
  note event _ _ steadied := (on_steadied steadied (Office.note_leaves_log event)).2
  findProfile steadied := on_steadied steadied (Office.find_profile_leaves_log notice.tenant)
  findActive steadied :=
    on_steadied steadied (Office.find_active_leaves_log notice.tenant notice.kind)
  cancelled steadied := congrArg Office.cancelled steadied.office
  now steadied := congrArg Office.clock steadied.office
  post email _ _ steadied := on_steadied steadied (Office.post_leaves_log email)
  collect email _ _ steadied := on_steadied steadied (Office.collect_leaves_log email)
  wait steadied := (on_steadied steadied Office.wait_leaves_log).2
  insertLog entry _ _ _ steadied := insert_log_steadied steadied entry

end Wavering

end SchoolNotice
