import SchoolNotice.Proofs.Delivery.Business
import SchoolNotice.Proofs.Delivery.Isolation

/-!
The order in which a batch reports. While a mail is under way the deliveries behind it begin, and one whose mail
is refused ends at once, with its report before those that are due before it. Nothing else comes out of the order
of the recipients, and a report overtakes fewer others than the buffer has seats.
-/

namespace SchoolNotice

/-! ## Lists with overtaking -/

/-- What was emitted is what was due, in its order but for what is early: that may be emitted before others that
are due before it and not early, if these are fewer than there is room for. -/
inductive Overtaking {α : Type} (room : Nat) (early : α → Prop) : List α → List α → Prop where
  | nil : Overtaking room early [] []
  | next {item : α} {before after emitted : List α} (turn : before = [] ∨ early item)
      (late : ∀ other ∈ before, ¬early other) (near : before.length < room)
      (others : Overtaking room early emitted (before ++ after)) :
      Overtaking room early (item :: emitted) (before ++ item :: after)

section Overtaking

variable {α : Type} {room : Nat} {early : α → Prop} {emitted due : List α}

theorem overtaking_perm (overtaking : Overtaking room early emitted due) : emitted.Perm due := by
  induction overtaking with
  | nil => exact .nil
  | next turn late near others induction => exact (induction.cons _).trans List.perm_middle.symm

/-- Without room for more than one, or if nothing is early, nothing is overtaken. -/
theorem overtaking_in_turn (overtaking : Overtaking room early emitted due)
    (never : room ≤ 1 ∨ ∀ item ∈ due, ¬early item) : emitted = due := by
  induction overtaking with
  | nil => rfl
  | @next item before after emitted turn late near others induction =>
      have first : before = [] := by
        rcases never with alone | never
        · exact List.length_eq_zero_iff.mp (by omega)
        · rcases turn with first | hurries
          · exact first
          · exact absurd hurries (never item (by simp))
      subst first
      have later : room ≤ 1 ∨ ∀ item ∈ [] ++ after, ¬early item :=
        never.imp id fun never other member => never other (List.mem_cons_of_mem item member)
      rw [List.nil_append] at later induction
      rw [List.nil_append, induction later]

/-- Items that are due at once can be emitted at once. -/
theorem overtaking_at_once {items after : List α} (seat : 0 < room)
    (others : Overtaking room early emitted after) :
    Overtaking room early (items ++ emitted) (items ++ after) := by
  induction items with
  | nil => exact others
  | cons item rest induction =>
      exact @Overtaking.next _ _ _ item [] _ _ (.inl rfl) (List.forall_mem_nil _) seat induction

/-- Items that are early can be emitted before those that are due before them, if none of these is early and they
are few. -/
theorem overtaking_early {items ahead after : List α} (hurried : ∀ item ∈ items, early item)
    (late : ∀ other ∈ ahead, ¬early other) (near : ahead.length < room)
    (others : Overtaking room early emitted (ahead ++ after)) :
    Overtaking room early (items ++ emitted) (ahead ++ (items ++ after)) := by
  induction items with
  | nil => exact others
  | cons item rest induction =>
      obtain ⟨first, next⟩ := List.forall_mem_cons.mp hurried
      exact .next (.inr first) late near (induction next)

end Overtaking

/-- What each of a list owes, with its outcome, one after another. -/
inductive InTurn {α : Type} (owes : α → Outcome → List Event → Prop) :
    List α → List Outcome → List Event → Prop where
  | nil : InTurn owes [] [] []
  | cons {debtor : α} {others : List α} {outcome : Outcome} {outcomes : List Outcome}
      {report due : List Event} (first : owes debtor outcome report)
      (rest : InTurn owes others outcomes due) :
      InTurn owes (debtor :: others) (outcome :: outcomes) (report ++ due)

section InTurn

variable {α : Type} {owes : α → Outcome → List Event → Prop} {outcomes : List Outcome}
  {due : List Event}

theorem in_turn_append {first second : List α} {outcomes others : List Outcome}
    {due more : List Event} (one : InTurn owes first outcomes due)
    (other : InTurn owes second others more) :
    InTurn owes (first ++ second) (outcomes ++ others) (due ++ more) := by
  induction one with
  | nil => exact other
  | cons first rest induction =>
      rw [List.append_assoc]
      exact .cons first induction

theorem in_turn_split {first second : List α} (both : InTurn owes (first ++ second) outcomes due) :
    ∃ one other report more, outcomes = one ++ other ∧ due = report ++ more ∧
      InTurn owes first one report ∧ InTurn owes second other more := by
  induction first generalizing outcomes due with
  | nil => exact ⟨[], outcomes, [], due, rfl, rfl, .nil, both⟩
  | cons debtor rest induction =>
      cases both with
      | cons owed others =>
          obtain ⟨one, other, report, more, rfl, rfl, front, back⟩ := induction others
          exact ⟨_, other, _, more, rfl, (List.append_assoc ..).symm, .cons owed front, back⟩

theorem in_turn_of_map {β : Type} {debtor : β → α} {list : List β}
    (owed : InTurn owes (list.map debtor) outcomes due) :
    InTurn (fun item => owes (debtor item)) list outcomes due := by
  induction list generalizing outcomes due with
  | nil =>
      cases owed
      exact .nil
  | cons item rest induction =>
      cases owed with
      | cons first others => exact .cons first (induction others)

theorem in_turn_length {list : List α} (owed : InTurn owes list outcomes due) :
    outcomes.length = list.length := by
  induction owed with
  | nil => rfl
  | cons first rest induction => exact congrArg Nat.succ induction

theorem in_turn_all {list : List α} {holds : Event → Prop} (owed : InTurn owes list outcomes due)
    (each : ∀ debtor ∈ list, ∀ outcome report, owes debtor outcome report →
      ∀ event ∈ report, holds event) : ∀ event ∈ due, holds event := by
  induction owed with
  | nil => exact List.forall_mem_nil _
  | cons first rest induction =>
      obtain ⟨own, others⟩ := List.forall_mem_cons.mp each
      exact List.forall_mem_append.mpr ⟨own _ _ first, induction others⟩

end InTurn

/-- Of the reports due, as many tell of a mail sent as deliveries succeeded. -/
theorem sent_in_turn {notice : Notice} {recipients : List Recipient} {outcomes : List Outcome}
    {due : List Event}
    (owed : InTurn (fun recipient => Reports notice recipient.address) recipients outcomes due) :
    due.countP Event.isSent = Dispatcher.succeeded outcomes := by
  induction owed with
  | nil => rfl
  | cons first rest induction =>
      rw [List.countP_append, Dispatcher.succeeded_cons, reports_counted first, induction]

/-! ## The line of a batch -/

def Seat.Owes (notice : Notice) : Seat → Outcome → List Event → Prop
  | .fresh recipient, outcome, report => Reports notice recipient.address outcome report
  | .begun (.waiting _ email), outcome, report => Reports notice email.recipient outcome report
  | .begun (.settled ending), outcome, report => outcome = ending ∧ report = []

def Seat.Sound (office : Office) : Seat → Prop
  | .begun (.waiting _ email) => office.mailer = .keeping ∧ email.recipient ∉ office.refused
  | _ => True

def Buffer.line (buffer : Buffer) : List Seat := buffer.seats ++ buffer.rest.map .fresh

theorem Buffer.line_fill (room : Nat) (buffer : Buffer) : (buffer.fill room).line = buffer.line := by
  simp only [line, fill, List.append_assoc, ← List.map_append, List.take_append_drop]

theorem Buffer.line_of_filled {buffer : Buffer} {room : Nat} {seats : List Seat}
    {rest : List Recipient} (filled : buffer.fill room = ⟨seats, rest⟩) :
    buffer.line = seats ++ rest.map .fresh := by
  rw [← line_fill room, filled, line]

theorem fill_sound {office : Office} {buffer : Buffer} (room : Nat)
    (sound : ∀ seat ∈ buffer.seats, seat.Sound office) :
    ∀ seat ∈ (buffer.fill room).seats, seat.Sound office := by
  refine List.forall_mem_append.mpr ⟨sound, ?_⟩
  intro seat taken
  obtain ⟨recipient, -, rfl⟩ := List.mem_map.mp taken
  trivial

theorem fill_fits {buffer : Buffer} {room : Nat} (fits : buffer.seats.length ≤ room) :
    (buffer.fill room).seats.length ≤ room := by
  simp only [Buffer.fill, List.length_append, List.length_map, List.length_take]
  omega

namespace Office

/-- The event tells of the failure of a mail to an address that is refused at once, while mails take time. -/
structure Early (office : Office) (event : Event) : Prop where
  slow : office.Slow
  failed : event.text? "event.action" = some "notification.failed"
  refused : ∃ address ∈ office.refused, event.text? "notification.recipient" = some address

theorem early_same_setup {office other : Office} (same : office.setup = other.setup) :
    office.Early = other.Early := by
  funext event
  apply propext
  constructor
  · rintro ⟨slow, failed, refused⟩
    rw [refused_same_setup same] at refused
    exact ⟨slow.of_setup same, failed, refused⟩
  · rintro ⟨slow, failed, refused⟩
    rw [← refused_same_setup same] at refused
    exact ⟨slow.of_setup same.symm, failed, refused⟩

variable {office : Office} {notice : Notice} {address : String} {outcome : Outcome}
  {report : List Event} (reports : Reports notice address outcome report)

include reports

theorem early_of_refused (slow : office.Slow)
    (refusing : report ≠ [] → address ∈ office.refused ∧ ∃ error, outcome = .error error) :
    ∀ event ∈ report, office.Early event := by
  intro event member
  obtain ⟨refused, error, failed⟩ := refusing (List.ne_nil_of_mem member)
  exact ⟨slow, reports_failed reports failed event member, address, refused,
    reports_addressed reports event member⟩

theorem not_early_of_accepted (accepted : address ∉ office.refused) :
    ∀ event ∈ report, ¬office.Early event := by
  rintro event member ⟨-, -, other, refused, addressed⟩
  cases (reports_addressed reports event member).symm.trans addressed
  exact accepted refused

end Office

namespace Dispatcher

open Office (Told)

variable (dispatcher : Dispatcher) (notice : Notice) {office : Office}

/-- From what the seats owe when some of their deliveries have begun follows what they owed before that, of which
the first part was emitted on beginning them. -/
def Forerun (room : Nat) (early : Event → Prop) (notice : Notice) (seats begun : List Seat)
    (emitted : List Event) : Prop :=
  ∀ {outcomes due}, InTurn (Seat.Owes notice) begun outcomes due →
    ∃ whole, InTurn (Seat.Owes notice) seats outcomes whole ∧
      ∀ {ahead behind later}, (∀ event ∈ ahead, ¬early event) →
        ahead.length + seats.length ≤ room →
        Overtaking room early later (ahead ++ (due ++ behind)) →
          Overtaking room early (emitted ++ later) (ahead ++ (whole ++ behind))

section Seats

variable {room : Nat} {early : Event → Prop} {notice : Notice} {office : Office}
  {seat changed : Seat} {seats begun : List Seat} {emitted : List Event}

/-- A seat that has nothing to report before its turn. -/
theorem forerun_patient
    (patient : ∀ outcome report, changed.Owes notice outcome report →
      seat.Owes notice outcome report ∧ report.length ≤ 1 ∧ ∀ event ∈ report, ¬early event)
    (others : Forerun room early notice seats begun emitted) :
    Forerun room early notice (seat :: seats) (changed :: begun) emitted := by
  intro outcomes due owed
  cases owed with
  | @cons _ _ outcome outcomes report due first rest =>
      obtain ⟨owes, few, late⟩ := patient outcome report first
      obtain ⟨whole, turn, ordered⟩ := others rest
      refine ⟨report ++ whole, .cons owes turn, ?_⟩
      intro ahead behind later waiting fits overtaking
      rw [List.length_cons] at fits
      have both : ∀ event ∈ ahead ++ report, ¬early event :=
        List.forall_mem_append.mpr ⟨waiting, late⟩
      have near : (ahead ++ report).length + seats.length ≤ room := by
        rw [List.length_append]
        omega
      rw [List.append_assoc, ← List.append_assoc] at overtaking ⊢
      exact ordered both near overtaking

/-- A seat whose delivery settles on beginning, with a report that is early. -/
theorem forerun_settled {outcome : Outcome} {report : List Event}
    (owes : seat.Owes notice outcome report) (hurried : ∀ event ∈ report, early event)
    (others : Forerun room early notice seats begun emitted) :
    Forerun room early notice (seat :: seats) (.begun (.settled outcome) :: begun)
      (report ++ emitted) := by
  intro outcomes due owed
  cases owed with
  | @cons _ _ ending outcomes nothing due first rest =>
      obtain ⟨rfl, rfl⟩ := first
      obtain ⟨whole, turn, ordered⟩ := others rest
      refine ⟨report ++ whole, .cons owes turn, ?_⟩
      intro ahead behind later waiting fits overtaking
      rw [List.length_cons] at fits
      rw [List.append_assoc, List.append_assoc]
      have later_ordered := ordered waiting (Nat.le_of_succ_le fits) overtaking
      have near : ahead.length < room := by omega
      exact overtaking_early hurried waiting near later_ordered

/-- A delivery under way reports in its turn only, as its mail was not refused. -/
theorem begun_patient {standing : Standing} (sound : (Seat.begun standing).Sound office)
    (outcome : Outcome) (report : List Event)
    (owes : (Seat.begun standing).Owes notice outcome report) :
    report.length ≤ 1 ∧ ∀ event ∈ report, ¬office.Early event := by
  cases standing with
  | waiting source email => exact ⟨reports_few owes, Office.not_early_of_accepted owes sound.2⟩
  | settled ending =>
      obtain ⟨-, rfl⟩ := owes
      exact ⟨Nat.zero_le 1, List.forall_mem_nil _⟩

end Seats

/-- While a mail is under way, deliveries that begin report before their turn only what is early. -/
theorem begin_all_forerun {room : Nat} (seats : List Seat) {state : Office}
    (same : state.setup = office.setup) (slow : office.Slow)
    (sound : ∀ seat ∈ seats, seat.Sound office) :
    (∀ seat ∈ (dispatcher.beginAll notice seats state).1, seat.Sound office) ∧
      ∃ emitted, Told emitted state (dispatcher.beginAll notice seats state).2 ∧
        Forerun room office.Early notice seats (dispatcher.beginAll notice seats state).1
          emitted := by
  induction seats generalizing state with
  | nil =>
      refine ⟨sound, [], .refl state, ?_⟩
      intro outcomes due owed
      cases owed
      exact ⟨[], .nil, fun _ _ overtaking => overtaking⟩
  | cons seat rest induction =>
      obtain ⟨own, others⟩ := List.forall_mem_cons.mp sound
      cases seat with
      | begun standing =>
          obtain ⟨still, emitted, told, forerun⟩ := induction same others
          refine ⟨List.forall_mem_cons.mpr ⟨own, still⟩, emitted, told, ?_⟩
          refine forerun_patient ?_ forerun
          intro outcome report owes
          exact ⟨owes, begun_patient own outcome report owes⟩
      | fresh recipient =>
          have starts := start_told dispatcher notice state recipient
          simp only [beginAll]
          rcases started : dispatcher.start notice recipient state with
            ⟨⟨source, email⟩ | outcome, next⟩
          · rw [started] at starts
            obtain ⟨addressed, -, accepted, quiet⟩ := starts
            rw [Office.refused_same_setup same, ← addressed] at accepted
            have waits : (Seat.begun (.waiting source email)).Sound office :=
              ⟨slow.keeping, accepted⟩
            obtain ⟨still, emitted, told, forerun⟩ := induction (quiet.setup.trans same) others
            refine ⟨List.forall_mem_cons.mpr ⟨waits, still⟩, emitted, quiet.after_nothing told, ?_⟩
            refine forerun_patient ?_ forerun
            intro outcome report owes
            refine ⟨?_, begun_patient waits outcome report owes⟩
            rw [Seat.Owes, ← addressed]
            exact owes
          · rw [started] at starts
            obtain ⟨report, reports, ended, refusing⟩ := starts
            have hurried := Office.early_of_refused reports (slow.of_setup same.symm)
              (refusing (slow.of_setup same.symm))
            rw [Office.early_same_setup same] at hurried
            obtain ⟨still, emitted, told, forerun⟩ := induction (ended.setup.trans same) others
            have owes : (Seat.fresh recipient).Owes notice outcome report := reports
            exact ⟨List.forall_mem_cons.mpr ⟨trivial, still⟩, report ++ emitted, ended.trans told,
              forerun_settled owes hurried forerun⟩

structure Passes (notice : Notice) (room : Nat) (office : Office) (seats : List Seat)
    (state : Office) (passed : Outcome × List Seat × Office) : Prop where
  sound : ∀ seat ∈ passed.2.1, seat.Sound office
  reports : ∃ emitted, Told emitted state passed.2.2 ∧
    ∀ {outcomes due}, InTurn (Seat.Owes notice) passed.2.1 outcomes due →
      ∃ whole, InTurn (Seat.Owes notice) seats (passed.1 :: outcomes) whole ∧
        ∀ {behind later}, Overtaking room office.Early later (due ++ behind) →
          Overtaking room office.Early (emitted ++ later) (whole ++ behind)

/-- A front that reports before those behind it begin leaves them as they are. -/
theorem passes_alone {room : Nat} (seat : 0 < room) {front : Seat} {behind : List Seat}
    {state next : Office} {outcome : Outcome} {report : List Event}
    (sound : ∀ seat ∈ behind, seat.Sound office) (owes : front.Owes notice outcome report)
    (told : Told report state next) :
    Passes notice room office (front :: behind) state (outcome, behind, next) := by
  refine ⟨sound, report, told, ?_⟩
  intro outcomes due owed
  refine ⟨report ++ due, .cons owes owed, ?_⟩
  intro after later overtaking
  rw [List.append_assoc]
  exact overtaking_at_once seat overtaking

/-- What was emitted while the front waited has overtaken the front's report and what is due behind it. -/
theorem passes_waiting {recipient : Recipient} {source : Source} {email : Email}
    {behind : List Seat} {state next : Office} (same : state.setup = office.setup)
    (sound : ∀ seat ∈ behind, seat.Sound office) (fits : behind.length + 1 ≤ dispatcher.room)
    (starts : Starts notice recipient state (.waiting source email) next) :
    let begun := dispatcher.beginAll notice behind next
    let landed := land notice (.waiting source email) begun.2.wait
    Passes notice dispatcher.room office (.fresh recipient :: behind) state
      (landed.1, begun.1, landed.2) := by
  intro begun landed
  obtain ⟨addressed, slow, accepted, quiet⟩ := starts
  have slowly := slow.of_setup same
  obtain ⟨left, emitted, told, forerun⟩ :=
    @begin_all_forerun dispatcher notice office dispatcher.room behind next
      (quiet.setup.trans same) slowly sound
  have waited := quiet.after_nothing (told.then_nothing begun.2.told_wait)
  rw [← addressed, ← Office.refused_same_setup waited.setup] at accepted
  have kept := (slow.of_setup waited.setup.symm).keeping
  obtain ⟨report, reports, ended⟩ := land_told notice begun.2.wait source email accepted kept
  have late := Office.not_early_of_accepted reports accepted
  rw [Office.early_same_setup (waited.setup.trans same)] at late
  have few := reports_few reports
  rw [addressed] at reports
  refine ⟨left, emitted ++ report, waited.trans ended, ?_⟩
  intro outcomes due owed
  obtain ⟨whole, turn, ordered⟩ := forerun owed
  refine ⟨report ++ whole, .cons reports turn, ?_⟩
  intro after later overtaking
  rw [List.append_assoc, List.append_assoc]
  have seat : 0 < dispatcher.room := Nat.lt_of_lt_of_le (Nat.succ_pos _) fits
  have near : report.length + behind.length ≤ dispatcher.room := by omega
  exact ordered late near (overtaking_at_once seat overtaking)

theorem pass_front_passes {front : Seat} {behind : List Seat} {state : Office}
    (same : state.setup = office.setup) (sound : ∀ seat ∈ front :: behind, seat.Sound office)
    (fits : (front :: behind).length ≤ dispatcher.room) :
    Passes notice dispatcher.room office (front :: behind) state
      (dispatcher.passFront notice front behind state) := by
  have seat : 0 < dispatcher.room := Nat.le_max_right dispatcher.concurrency 1
  obtain ⟨own, others⟩ := List.forall_mem_cons.mp sound
  cases front with
  | begun standing =>
      cases standing with
      | settled outcome => exact passes_alone notice seat others ⟨rfl, rfl⟩ (.refl state)
      | waiting source email =>
          obtain ⟨keeping, accepted⟩ := own
          rw [← Office.refused_same_setup same] at accepted
          have kept : state.mailer = .keeping := (congrArg Office.mailer same).trans keeping
          obtain ⟨report, reports, told⟩ := land_told notice state source email accepted kept
          exact passes_alone notice seat others reports told
  | fresh recipient =>
      have starts := start_told dispatcher notice state recipient
      simp only [passFront]
      rcases started : dispatcher.start notice recipient state with
        ⟨⟨source, email⟩ | outcome, next⟩
      · rw [started] at starts
        exact passes_waiting dispatcher notice same others fits starts
      · rw [started] at starts
        obtain ⟨report, reports, told, -⟩ := starts
        exact passes_alone notice seat others reports told

/-- The deliveries of a buffer report what they owe, in their order but for what is early. -/
theorem drain_reports (buffer : Buffer) {state : Office} (same : state.setup = office.setup)
    (sound : ∀ seat ∈ buffer.seats, seat.Sound office)
    (fits : buffer.seats.length ≤ dispatcher.room) :
    ∃ emitted due, Told emitted state (dispatcher.drain notice buffer state).2 ∧
      InTurn (Seat.Owes notice) buffer.line (dispatcher.drain notice buffer state).1 due ∧
        Overtaking dispatcher.room office.Early emitted due := by
  have seat : 1 ≤ dispatcher.room := Nat.le_max_right dispatcher.concurrency 1
  induction buffer, state using @drain_induction Office _ dispatcher notice with
  | @empty buffer rest state filled =>
      rw [Buffer.line_of_filled filled, Flight.rest_of_no_front seat filled, drain_empty filled]
      exact ⟨[], [], .refl state, .nil, .nil⟩
  | @front buffer front behind rest state filled induction =>
      have seated := fill_sound dispatcher.room sound
      have room := fill_fits fits
      rw [filled] at seated room
      obtain ⟨left, first, told, owed⟩ :=
        pass_front_passes dispatcher notice same seated room
      have fewer :
          (dispatcher.passFront notice front behind state).2.1.length ≤ dispatcher.room := by
        rw [length_pass_front]
        exact Nat.le_of_succ_le room
      obtain ⟨emitted, due, others, turn, overtaking⟩ :=
        induction (told.setup.trans same) left fewer
      obtain ⟨outcomes, later, mine, more, split, rfl, own, rest_owed⟩ := in_turn_split turn
      obtain ⟨whole, whole_turn, ordered⟩ := owed own
      rw [Buffer.line_of_filled filled, drain_front filled]
      refine ⟨first ++ emitted, whole ++ more, told.trans others, ?_, ordered overtaking⟩
      dsimp only
      rw [split]
      exact in_turn_append whole_turn rest_owed

end Dispatcher

structure Event.Completes (notice : Notice) (succeeded failed : Nat) (event : Event) : Prop where
  concerns : ∃ result, event.Concerns notice "notification.batch_completed" result
  successes : Json.Members.get? "batch.succeeded" event.fields = some (Json.ofNat succeeded)
  failures : Json.Members.get? "batch.failed" event.fields = some (Json.ofNat failed)
  success : event.text? "event.result" = some "success" ↔ failed = 0
  failure : event.text? "event.result" = some "failure" ↔ succeeded = 0 ∧ 0 < failed
  mixture : event.text? "event.result" = some "partial" ↔ 0 < succeeded ∧ 0 < failed

theorem batch_result_tells (succeeded failed : Nat) :
    (Event.batchResult succeeded failed = "success" ↔ failed = 0) ∧
      (Event.batchResult succeeded failed = "failure" ↔ succeeded = 0 ∧ 0 < failed) ∧
        (Event.batchResult succeeded failed = "partial" ↔ 0 < succeeded ∧ 0 < failed) := by
  unfold Event.batchResult
  by_cases whole : failed = 0
  · simp [whole]
  · have failing := Nat.pos_of_ne_zero whole
    by_cases vain : succeeded = 0
    · simp [whole, vain, failing]
    · simp [whole, vain, failing, Nat.pos_of_ne_zero vain]

theorem batch_completed_completes (notice : Notice) (succeeded failed : Nat) :
    (Event.batchCompleted notice.tenant notice.kind succeeded failed).Completes notice succeeded
      failed := by
  let event := Event.batchCompleted notice.tenant notice.kind succeeded failed
  let result := Event.batchResult succeeded failed
  have concerns : event.Concerns notice "notification.batch_completed" result :=
    Event.concerns_of_fields rfl
  obtain ⟨success, failure, mixture⟩ := batch_result_tells succeeded failed
  constructor
  case concerns => exact ⟨result, concerns⟩
  case successes => rfl
  case failures => rfl
  case success => rwa [concerns.result, Option.some_inj]
  case failure => rwa [concerns.result, Option.some_inj]
  case mixture => rwa [concerns.result, Option.some_inj]

namespace Dispatcher

open Office (Told)

variable (dispatcher : Dispatcher) (notice : Notice) (office : Office)

/-- A batch reports what is due for each recipient, and at last that it is complete. -/
theorem batch_told (recipients : List Recipient) :
    let batched := dispatcher.batch notice recipients office
    ∃ emitted due completed failed,
      InTurn (fun recipient => Reports notice recipient.address) recipients batched.1 due ∧
        Overtaking dispatcher.room office.Early emitted due ∧
        Event.Completes notice (succeeded batched.1) failed completed ∧
        succeeded batched.1 + failed = recipients.length ∧
        Told (emitted ++ [completed]) office batched.2 := by
  intro batched
  obtain ⟨emitted, due, told, turn, overtaking⟩ :=
    @drain_reports dispatcher notice office ⟨[], recipients⟩ office rfl (List.forall_mem_nil _)
      (Nat.zero_le _)
  have owed := in_turn_of_map turn
  have all : batched.1.length = recipients.length := in_turn_length owed
  have few : succeeded batched.1 ≤ batched.1.length := List.length_filter_le _ _
  let failed := batched.1.length - succeeded batched.1
  let completed := Event.batchCompleted notice.tenant notice.kind (succeeded batched.1) failed
  have completes : completed.Completes notice (succeeded batched.1) failed :=
    batch_completed_completes notice _ _
  obtain ⟨result, concerns⟩ := completes.concerns
  have noted := (dispatcher.drain notice ⟨[], recipients⟩ office).2.told_event concerns.business rfl
  exact ⟨emitted, due, completed, failed, owed, overtaking, completes, by omega, told.trans noted⟩

/-- Of all that a batch reports, as many events tell of a mail sent as deliveries succeeded. -/
theorem batch_sent {room : Nat} {early : Event → Prop} {recipients : List Recipient}
    {outcomes : List Outcome} {emitted due : List Event} {count failed : Nat} {completed : Event}
    (owed : InTurn (fun recipient => Reports notice recipient.address) recipients outcomes due)
    (overtaking : Overtaking room early emitted due)
    (completes : completed.Completes notice count failed) :
    (emitted ++ [completed]).countP Event.isSent = succeeded outcomes := by
  obtain ⟨result, concerns⟩ := completes.concerns
  have unsent : completed.isSent = false := concerns.unsent (by decide)
  rw [List.countP_append, (overtaking_perm overtaking).countP_eq, sent_in_turn owed,
    List.countP_singleton, unsent]
  rfl

/-- Reports are in the order of the recipients if no delivery begins while another waits, or none is refused. -/
theorem reports_in_turn {recipients : List Recipient} {outcomes : List Outcome}
    {emitted due : List Event}
    (owed : InTurn (fun recipient => Reports notice recipient.address) recipients outcomes due)
    (overtaking : Overtaking dispatcher.room office.Early emitted due)
    (never : dispatcher.concurrency ≤ 1 ∨ ¬office.Slow ∨
      ∀ recipient ∈ recipients, recipient.address ∉ office.refused) : emitted = due := by
  apply overtaking_in_turn overtaking
  rcases never with alone | instant | accepted
  · exact .inl (Nat.max_le.mpr ⟨alone, Nat.le_refl 1⟩)
  · exact .inr fun event _ early => instant early.slow
  · right
    refine in_turn_all owed ?_
    intro recipient member outcome report reports
    exact Office.not_early_of_accepted reports (accepted recipient member)

end Dispatcher

end SchoolNotice
