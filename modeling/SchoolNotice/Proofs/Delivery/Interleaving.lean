import Mathlib.Data.List.Forall2
import SchoolNotice.Delivery.Batch
import SchoolNotice.Proofs.Delivery.Outcomes

/-!
A batch is one of the flights. The buffer of a batch holds the deliveries from the one whose outcome is next
in order to the last one taken up, and all that the batch does with them can be told as events.
-/

namespace SchoolNotice

namespace Seat

def stage : Seat → Progress
  | .fresh _ => .enriching
  | .begun standing => standing.stage

def Serves (recipient : Recipient) : Seat → Prop
  | .fresh waiting => waiting = recipient
  | .begun standing => standing.Serves recipient

end Seat

namespace Flight

variable {dispatcher : Dispatcher} {notice : Notice} {recipients : List Recipient}
  {flight : Flight}

theorem begin_all_serves {served : List Recipient} {seats : List Seat}
    (serves : List.Forall₂ Seat.Serves served seats) (office : Office) :
    List.Forall₂ Seat.Serves served (dispatcher.beginAll notice seats office).1 := by
  induction serves generalizing office with
  | nil => exact .nil
  | @cons recipient seat served seats own others induction =>
      cases seat with
      | begun standing => exact .cons own (induction office)
      | fresh waiting =>
          have owned : waiting = recipient := own
          subst owned
          exact .cons (dispatcher.start_leads notice waiting office).2 (induction _)

variable (dispatcher notice) in
theorem begin_all_reaches {seats : List Seat} {done : List Progress}
    {gone served rest : List Recipient}
    (progress : flight.progress = done ++ seats.map Seat.stage)
    (parted : recipients = gone ++ served ++ rest) (same : gone.length = done.length)
    (serves : List.Forall₂ Seat.Serves served seats) :
    flight.Reaches dispatcher notice recipients
      (done ++ (dispatcher.beginAll notice seats flight.office).1.map Seat.stage) flight.passed
      (dispatcher.beginAll notice seats flight.office).2 := by
  induction serves generalizing flight done gone with
  | nil =>
      rw [Dispatcher.beginAll, ← progress]
      exact reaches_self
  | @cons recipient seat served seats own others induction =>
      have parted_behind : recipients = (gone ++ [recipient]) ++ served ++ rest := by
        rw [parted, List.append_cons]
      have same_behind : ∀ stage, (gone ++ [recipient]).length = (done ++ [stage]).length := by
        simp [same]
      cases seat with
      | begun standing =>
          rw [List.map_cons, List.append_cons] at progress
          have reaches := induction progress parted_behind (same_behind _)
          rw [← List.append_cons] at reaches
          exact reaches
      | fresh waiting =>
          have owned : waiting = recipient := own
          subst owned
          obtain ⟨leads, begun⟩ := dispatcher.start_leads notice waiting flight.office
          have addressed : recipients[done.length]? = some waiting := by
            rw [parted, ← same]
            simp
          have stood : flight.progress[done.length]? = some .enriching := by
            rw [progress]
            simp [Seat.stage]
          apply reaches_after (leads_reaches leads addressed rfl stood)
          intro middle moved passed office
          rw [progress, List.set_append_right _ _ (Nat.le_refl _), Nat.sub_self, List.map_cons,
            List.set_cons_zero, List.append_cons] at moved
          have reaches := induction moved parted_behind (same_behind _)
          rw [← List.append_cons, passed, office] at reaches
          exact reaches

variable (dispatcher notice) in
theorem land_reaches {standing : Standing} {done others : List Progress} {recipient : Recipient}
    (progress : flight.progress = done ++ standing.stage :: others)
    (next : done.length = flight.passed.length)
    (addressed : recipients[done.length]? = some recipient) (serves : standing.Serves recipient) :
    let landed := Dispatcher.land notice standing flight.office
    flight.Reaches dispatcher notice recipients (done ++ .settled landed.1 :: others)
      (flight.passed ++ [landed.1]) landed.2 := by
  have leads := dispatcher.land_leads notice recipient standing serves flight.office
  have stood : flight.progress[done.length]? = some standing.stage := by
    rw [progress]
    simp
  rw [next] at addressed stood
  have reaches := leads_passes leads addressed stood
  rw [progress, ← next, List.set_append_right _ _ (Nat.le_refl _), Nat.sub_self,
    List.set_cons_zero] at reaches
  exact reaches

theorem pass_front_serves {served : List Recipient} {behind : List Seat}
    (serves : List.Forall₂ Seat.Serves served behind) (front : Seat) (office : Office) :
    List.Forall₂ Seat.Serves served (dispatcher.passFront notice front behind office).2.1 := by
  unfold Dispatcher.passFront
  split
  · exact serves
  · split
    · exact serves
    · exact begin_all_serves serves _

variable (dispatcher notice) in
theorem pass_front_reaches {front : Seat} {behind : List Seat} {done : List Progress}
    {gone served rest : List Recipient} {recipient : Recipient}
    (progress : flight.progress = done ++ front.stage :: behind.map Seat.stage)
    (next : done.length = flight.passed.length)
    (parted : recipients = gone ++ (recipient :: served) ++ rest) (same : gone.length = done.length)
    (own : front.Serves recipient) (serves : List.Forall₂ Seat.Serves served behind) :
    let handed := dispatcher.passFront notice front behind flight.office
    flight.Reaches dispatcher notice recipients
      (done ++ .settled handed.1 :: handed.2.1.map Seat.stage) (flight.passed ++ [handed.1])
      handed.2.2 := by
  have addressed : recipients[done.length]? = some recipient := by
    rw [parted, ← same]
    simp
  cases front with
  | begun standing => exact land_reaches dispatcher notice progress next addressed own
  | fresh waiting =>
      have owned : waiting = recipient := own
      subst owned
      have started := dispatcher.start_leads notice waiting flight.office
      have stood : flight.progress[done.length]? = some .enriching := by
        rw [progress]
        simp [Seat.stage]
      unfold Dispatcher.passFront
      dsimp only
      revert started
      cases dispatcher.start notice waiting flight.office with | mk standing state =>
      rintro ⟨leads, begun⟩
      apply reaches_after (leads_reaches leads addressed rfl stood)
      intro middle moved passed office
      rw [progress, List.set_append_right _ _ (Nat.le_refl _), Nat.sub_self,
        List.set_cons_zero] at moved
      rw [← passed] at next ⊢
      cases standing with
      | settled outcome =>
          have reaches := land_reaches dispatcher notice moved next addressed begun
          rw [office] at reaches
          exact reaches
      | waiting source email =>
          have moved_behind := moved
          rw [List.append_cons] at moved_behind
          have parted_behind : recipients = (gone ++ [waiting]) ++ served ++ rest := by
            rw [parted, List.append_cons]
          have others := begin_all_reaches dispatcher notice moved_behind parted_behind
            (by simp [same]) serves
          -- The others begin while the front waits, then time passes and the front lands.
          apply reaches_after others
          intro begun_all progress_all passed_all office_all
          have waited : begun_all.Reaches dispatcher notice recipients begun_all.progress
              begun_all.passed begun_all.office.wait := ⟨_, ⟨[.wait], rfl⟩, rfl, rfl, rfl⟩
          apply reaches_after waited
          intro last last_progress last_passed last_office
          rw [progress_all, ← List.append_cons] at last_progress
          rw [passed_all] at last_passed
          rw [← last_passed] at next ⊢
          have reaches := land_reaches dispatcher notice last_progress next addressed begun
          rw [last_office, office_all, office] at reaches
          exact reaches

theorem stages_of_fresh (waiting : List Recipient) :
    (waiting.map Seat.fresh).map Seat.stage = List.replicate waiting.length .enriching := by
  induction waiting with
  | nil => rfl
  | cons recipient rest induction =>
      simp only [List.map_cons, List.length_cons, List.replicate_succ, induction]
      rfl

theorem fresh_serves (waiting : List Recipient) :
    List.Forall₂ Seat.Serves waiting (waiting.map .fresh) := by
  induction waiting with
  | nil => exact .nil
  | cons recipient rest induction => exact .cons rfl induction

/-- The buffer holds what a flight has under way: behind the deliveries that are done stand those in the
seats, each for the recipient that it serves, and the rest has not been taken up. -/
structure Holds (recipients : List Recipient) (buffer : Buffer) (done : List Progress)
    (gone served : List Recipient) (flight : Flight) : Prop where
  progress : flight.progress = done ++ buffer.seats.map Seat.stage
  next : done.length = flight.passed.length
  parted : recipients = gone ++ served ++ buffer.rest
  same : gone.length = done.length
  serves : List.Forall₂ Seat.Serves served buffer.seats

variable (dispatcher notice) in
theorem fill_holds {buffer : Buffer} {done : List Progress} {gone served : List Recipient}
    (holds : Holds recipients buffer done gone served flight) : ∃ seated later,
      Onward dispatcher notice recipients flight later ∧
        Holds recipients (buffer.fill dispatcher.room) done gone seated later ∧
          later.passed = flight.passed ∧ later.office = flight.office := by
  let taken := buffer.rest.take (dispatcher.room - buffer.seats.length)
  have length : flight.progress.length = done.length + buffer.seats.length := by
    rw [holds.progress, List.length_append, List.length_map]
  have whole : recipients.length = gone.length + served.length + buffer.rest.length := by
    rw [holds.parted, List.length_append, List.length_append]
  have matched := holds.serves.length_eq
  have next := holds.next
  have same := holds.same
  have free : taken.length ≤ dispatcher.room - buffer.seats.length := List.length_take_le ..
  have few : taken.length ≤ buffer.rest.length := List.length_take_le' ..
  have reaches : flight.Reaches dispatcher notice recipients _ _ _ :=
    take_reaches taken.length (by omega) (by omega)
  obtain ⟨later, onward, progress, passed, office⟩ := reaches
  refine ⟨served ++ taken, later, onward, ?_, passed, office⟩
  constructor
  · rw [progress, holds.progress, ← stages_of_fresh, List.append_assoc, ← List.map_append]
    rfl
  · rw [passed, next]
  · rw [holds.parted]
    simp only [Buffer.fill, taken, List.append_assoc, List.take_append_drop]
  · exact same
  · exact List.rel_append holds.serves (fresh_serves taken)

variable (dispatcher notice) in
theorem pass_front_holds {front : Seat} {behind : List Seat} {rest : List Recipient}
    {done : List Progress} {gone served : List Recipient} {recipient : Recipient}
    (holds : Holds recipients ⟨front :: behind, rest⟩ done gone (recipient :: served) flight) :
    let handed := dispatcher.passFront notice front behind flight.office
    ∃ later, Onward dispatcher notice recipients flight later ∧
      Holds recipients ⟨handed.2.1, rest⟩ (done ++ [.settled handed.1]) (gone ++ [recipient]) served
          later ∧
        later.passed = flight.passed ++ [handed.1] ∧ later.office = handed.2.2 := by
  intro handed
  have next := holds.next
  have same := holds.same
  cases holds.serves with | cons own others =>
  have reaches := pass_front_reaches dispatcher notice holds.progress next holds.parted same own
    others
  obtain ⟨later, onward, progress, passed, office⟩ := reaches
  refine ⟨later, onward, ?_, passed, office⟩
  constructor
  · rw [progress, List.append_cons]
  · rw [passed, List.length_append, List.length_append, next]
    rfl
  · rw [holds.parted, List.append_cons]
  · rw [List.length_append, List.length_append, same]
    rfl
  · exact pass_front_serves others front flight.office

variable (dispatcher notice) in
theorem drain_onward {buffer : Buffer} {done : List Progress} {gone served : List Recipient}
    (holds : Holds recipients buffer done gone served flight) :
    let drained := dispatcher.drain notice buffer flight.office
    ∃ later, Onward dispatcher notice recipients flight later ∧
      later.passed = flight.passed ++ drained.1 ∧ later.office = drained.2 := by
  induction size : buffer.size using Nat.strongRecOn generalizing flight buffer done gone served with
  | _ size induction =>
      subst size
      obtain ⟨seated, full, taken, holds_full, passed, office⟩ := fill_holds dispatcher notice holds
      have smaller := buffer.size_fill dispatcher.room
      cases filled : buffer.fill dispatcher.room with | mk slots rest =>
      rw [filled] at holds_full smaller
      cases slots with
      | nil =>
          rw [Dispatcher.drain_empty filled]
          refine ⟨full, taken, ?_, office⟩
          rw [List.append_nil, passed]
      | cons front behind =>
          rw [Dispatcher.drain_front filled]
          have serves := holds_full.serves
          cases seated with
          | nil => cases serves
          | cons recipient served =>
              obtain ⟨later, handed, holds_later, passed_later, office_later⟩ :=
                pass_front_holds dispatcher notice holds_full
              rw [office] at holds_later passed_later office_later
              -- The induction is on the size of the buffer: one delivery has left it.
              have shorter : (Buffer.mk (dispatcher.passFront notice front behind flight.office).2.1
                  rest).size < buffer.size := by
                rw [← smaller]
                simp only [Buffer.size, Dispatcher.length_pass_front, List.length_cons]
                omega
              obtain ⟨last, drained, passed_last, office_last⟩ :=
                induction _ shorter holds_later rfl
              rw [office_later] at passed_last office_last
              refine ⟨last, onward_trans taken (onward_trans handed drained), ?_, office_last⟩
              rw [passed_last, passed_later, passed, List.append_assoc]
              rfl

theorem size_of_no_front {room : Nat} (seat : 1 ≤ room) {buffer : Buffer} {rest : List Recipient}
    (filled : buffer.fill room = ⟨[], rest⟩) : buffer.size = 0 := by
  have slots := congrArg (fun filled => filled.seats.length) filled
  simp only [Buffer.fill, List.length_append, List.length_map, List.length_take,
    List.length_nil] at slots
  unfold Buffer.size
  omega

theorem rest_of_no_front {room : Nat} (seat : 1 ≤ room) {buffer : Buffer} {rest : List Recipient}
    (filled : buffer.fill room = ⟨[], rest⟩) : rest = [] := by
  have whole := (buffer.size_fill room).trans (size_of_no_front seat filled)
  rw [filled, Buffer.size, List.length_nil, Nat.zero_add] at whole
  exact List.eq_nil_of_length_eq_zero whole

variable (dispatcher notice) in
theorem length_drain (buffer : Buffer) (office : Office) :
    (dispatcher.drain notice buffer office).1.length = buffer.size := by
  induction size : buffer.size using Nat.strongRecOn generalizing buffer office with
  | _ size induction =>
      subst size
      have seat : 1 ≤ dispatcher.room := Nat.le_max_right dispatcher.concurrency 1
      have whole := buffer.size_fill dispatcher.room
      cases filled : buffer.fill dispatcher.room with | mk slots rest =>
      rw [filled] at whole
      cases slots with
      | nil =>
          rw [Dispatcher.drain_empty filled]
          exact (size_of_no_front seat filled).symm
      | cons front behind =>
          let handed := dispatcher.passFront notice front behind office
          have shorter : (Buffer.mk handed.2.1 rest).size + 1 = buffer.size := by
            rw [← whole]
            simp only [handed, Buffer.size, Dispatcher.length_pass_front, List.length_cons]
            omega
          have others := induction _ (Nat.lt_of_succ_le (Nat.le_of_eq shorter))
            ⟨handed.2.1, rest⟩ handed.2.2 rfl
          rw [Dispatcher.drain_front filled, List.length_cons, others]
          exact shorter

/-- A batch is one of the flights: some events lead to its outcomes and to the office that it leaves. -/
theorem batch_flies (dispatcher : Dispatcher) (notice : Notice) (recipients : List Recipient)
    (office : Office) : ∃ events,
      let flight := (ready office).run dispatcher notice recipients events
      let count := Dispatcher.succeeded flight.passed
      dispatcher.batch notice recipients office =
        (flight.passed, flight.office.note
          (.batchCompleted notice.tenant notice.kind count (flight.passed.length - count))) := by
  have holds : Holds recipients ⟨[], recipients⟩ [] [] [] (ready office) :=
    { progress := rfl, next := rfl, parted := rfl, same := rfl, serves := .nil }
  obtain ⟨later, ⟨events, led⟩, passed, left⟩ := drain_onward dispatcher notice holds
  refine ⟨events, ?_⟩
  rw [led]
  dsimp only
  rw [passed, left]
  rfl

/-- What a batch returns and leaves agrees: it has one outcome for each recipient, and they match the mails
and the log entries of the office. -/
theorem batch_agrees (dispatcher : Dispatcher) (notice : Notice) (recipients : List Recipient)
    (office : Office) (keeping : office.mailer = .keeping) :
    let batched := dispatcher.batch notice recipients office
    batched.1.length = recipients.length ∧ ∃ flight : Flight,
      flight.Agrees dispatcher notice recipients office ∧ flight.passed = batched.1 ∧
        flight.office.sent = batched.2.sent ∧ flight.office.logs = batched.2.logs := by
  intro batched
  obtain ⟨events, flown⟩ := batch_flies dispatcher notice recipients office
  have accounted := run_accounted keeping (ready_accounted dispatcher notice recipients office) events
  constructor
  · have whole := length_drain dispatcher notice ⟨[], recipients⟩ office
    rw [Buffer.size, List.length_nil, Nat.zero_add] at whole
    exact whole
  · refine ⟨_, agrees_of_accounted accounted, ?_⟩
    rw [show batched = _ from flown]
    exact ⟨rfl, rfl, rfl⟩

end Flight

end SchoolNotice
