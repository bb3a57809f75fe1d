import SchoolNotice.Proofs.Delivery.Steps

/-!
Where the events of a flight can lead. The events are free to come in any order; here they are chosen so
that one delivery goes on, that recipients are taken up, or that the outcome next in order is passed on.
-/

namespace SchoolNotice

open Dispatcher (Leads)

namespace Flight

variable {dispatcher : Dispatcher} {notice : Notice} {recipients : List Recipient}
  {flight : Flight}

theorem run_append (first second : List FlightEvent) :
    flight.run dispatcher notice recipients (first ++ second) =
      (flight.run dispatcher notice recipients first).run dispatcher notice recipients second :=
  List.foldl_append

def Onward (dispatcher : Dispatcher) (notice : Notice) (recipients : List Recipient)
    (flight later : Flight) : Prop :=
  ∃ events, flight.run dispatcher notice recipients events = later

theorem onward_trans {middle later : Flight}
    (first : Onward dispatcher notice recipients flight middle)
    (second : Onward dispatcher notice recipients middle later) :
    Onward dispatcher notice recipients flight later := by
  obtain ⟨events, rfl⟩ := first
  obtain ⟨more, rfl⟩ := second
  exact ⟨events ++ more, run_append events more⟩

def Reaches (dispatcher : Dispatcher) (notice : Notice) (recipients : List Recipient)
    (flight : Flight) (progress : List Progress) (passed : List Outcome) (office : Office) : Prop :=
  ∃ later, Onward dispatcher notice recipients flight later ∧ later.progress = progress ∧
    later.passed = passed ∧ later.office = office

theorem reaches_self : flight.Reaches dispatcher notice recipients flight.progress flight.passed
    flight.office :=
  ⟨flight, ⟨[], rfl⟩, rfl, rfl, rfl⟩

theorem reaches_after {progress last : List Progress} {passed outcomes : List Outcome}
    {office after : Office}
    (first : flight.Reaches dispatcher notice recipients progress passed office)
    (second : ∀ middle : Flight, middle.progress = progress → middle.passed = passed →
      middle.office = office → middle.Reaches dispatcher notice recipients last outcomes after) :
    flight.Reaches dispatcher notice recipients last outcomes after := by
  obtain ⟨middle, onward, stood, handed, looked⟩ := first
  obtain ⟨later, more, rest⟩ := second middle stood handed looked
  exact ⟨later, onward_trans onward more, rest⟩

/-- The steps of one delivery, in a flight. -/
theorem leads_reaches {recipient : Recipient} {stage last : Progress} {state after : Office}
    (leads : Leads dispatcher notice recipient stage state last after) {place : Nat}
    (addressed : recipients[place]? = some recipient) (looked : flight.office = state)
    (stood : flight.progress[place]? = some stage) :
    flight.Reaches dispatcher notice recipients (flight.progress.set place last) flight.passed
      after := by
  induction leads generalizing flight with
  | here stage state =>
      have same : flight.progress.set place stage = flight.progress := by
        obtain ⟨within, found⟩ := List.getElem?_eq_some_iff.mp stood
        rw [← found, List.set_getElem_self]
      rw [same, ← looked]
      exact reaches_self
  | @step stage next last state later after advanced rest induction =>
      subst looked
      let stepped := flight.step dispatcher notice recipients (.advance place)
      have moved : stepped.progress = flight.progress.set place next ∧
          stepped.passed = flight.passed ∧ stepped.office = later := by
        simp only [stepped, step, addressed, stood, advanced]
        trivial
      obtain ⟨progress, passed, office⟩ := moved
      have within := (List.getElem?_eq_some_iff.mp stood).1
      have reached := induction office (by rw [progress]; exact List.getElem?_set_self within)
      rw [progress, List.set_set, passed] at reached
      obtain ⟨later, ⟨events, led⟩, rest⟩ := reached
      exact ⟨later, ⟨.advance place :: events, led⟩, rest⟩

theorem pass_reaches {outcome : Outcome} (settled : flight.OutcomeAt flight.passed.length outcome) :
    flight.Reaches dispatcher notice recipients flight.progress (flight.passed ++ [outcome])
      flight.office := by
  refine ⟨_, ⟨[.pass], rfl⟩, ?_⟩
  unfold OutcomeAt at settled
  simp only [run, List.foldl_cons, List.foldl_nil, step, settled]
  trivial

theorem take_reaches (count : Nat) (few : flight.progress.length + count ≤ recipients.length)
    (seats : count ≤ flight.passed.length + dispatcher.room - flight.progress.length) :
    flight.Reaches dispatcher notice recipients
      (flight.progress ++ List.replicate count .enriching) flight.passed flight.office := by
  induction count generalizing flight with
  | zero =>
      rw [List.replicate_zero, List.append_nil]
      exact reaches_self
  | succ count induction =>
      have free : flight.hasRoom dispatcher.room recipients.length = true := by
        simp only [hasRoom, Bool.and_eq_true, decide_eq_true_eq]
        omega
      have took : flight.Reaches dispatcher notice recipients
          (flight.progress ++ [.enriching]) flight.passed flight.office := by
        refine ⟨_, ⟨[.take], rfl⟩, ?_⟩
        simp only [run, List.foldl_cons, List.foldl_nil, step, free, if_true]
        trivial
      apply reaches_after took
      intro middle progress passed office
      have length : middle.progress.length = flight.progress.length + 1 := by
        rw [progress, List.length_append, List.length_singleton]
      have rest := @induction middle (by omega) (by rw [passed]; omega)
      rw [progress, passed, office, List.append_assoc] at rest
      exact rest

/-- The delivery next in order goes on to its end, and its outcome is passed on. -/
theorem leads_passes {recipient : Recipient} {stage : Progress} {outcome : Outcome} {after : Office}
    (leads : Leads dispatcher notice recipient stage flight.office (.settled outcome) after)
    (addressed : recipients[flight.passed.length]? = some recipient)
    (stood : flight.progress[flight.passed.length]? = some stage) :
    flight.Reaches dispatcher notice recipients
      (flight.progress.set flight.passed.length (.settled outcome)) (flight.passed ++ [outcome])
      after := by
  have within := (List.getElem?_eq_some_iff.mp stood).1
  apply reaches_after (leads_reaches leads addressed rfl stood)
  intro middle progress passed office
  have settled : middle.OutcomeAt middle.passed.length outcome := by
    rw [OutcomeAt, progress, passed]
    exact List.getElem?_set_self within
  rw [← progress, ← passed, ← office]
  exact pass_reaches settled

end Flight

end SchoolNotice
