import SchoolNotice.Proofs.Delivery.Accounts
import SchoolNotice.Proofs.Delivery.Reach

/-!
Every flight can be brought to its end. A delivery has settled after a bounded number of its own steps, each
of which brings it nearer; so the delivery whose outcome is next in order settles, its outcome is passed on
and a seat becomes free.
-/

namespace SchoolNotice

open Dispatcher (Leads Moves)

/-- An upper bound for the steps that a delivery has ahead. -/
def Progress.ahead : Progress → Nat
  | .enriching => 5
  | .selecting _ => 4
  | .sending .. => 3
  | .waiting .. => 2
  | .logging .. => 1
  | .settled _ => 0

theorem moves_ahead {dispatcher : Dispatcher} {notice : Notice} {recipient : Recipient}
    {office : Office} {stage next : Progress} {mails : List Email} {entries : List LogEntry}
    (moves : Moves dispatcher notice recipient office stage mails entries next)
    (unsettled : 0 < stage.ahead) : next.ahead < stage.ahead := by
  cases moves with
  | cancelled => exact unsettled
  | answered posted => rcases posted with rfl | rfl <;> simp [Progress.ahead]
  | settled => exact unsettled
  | _ => simp [Progress.ahead]

/-- A delivery that goes on alone settles. -/
theorem leads_to_end (dispatcher : Dispatcher) (notice : Notice) (recipient : Recipient)
    (stage : Progress) (office : Office) (keeping : office.mailer = .keeping) : ∃ outcome after,
      Leads dispatcher notice recipient stage office (.settled outcome) after := by
  induction steps : stage.ahead using Nat.strongRecOn generalizing stage office with
  | _ steps induction =>
      subst steps
      by_cases ended : stage.ahead = 0
      · cases stage with
        | settled outcome => exact ⟨outcome, office, .here _ _⟩
        | _ => simp [Progress.ahead] at ended
      · obtain ⟨mails, entries, moves, grew⟩ :=
          dispatcher.advance_steps notice office recipient stage keeping
        have nearer := moves_ahead moves (Nat.pos_of_ne_zero ended)
        have keeps : (dispatcher.advance notice recipient stage office).2.mailer = .keeping :=
          (congrArg Office.mailer grew.setup).trans keeping
        obtain ⟨outcome, after, rest⟩ := induction _ nearer _ _ keeps rfl
        exact ⟨outcome, after, .step rfl rest⟩

namespace Flight

variable {dispatcher : Dispatcher} {notice : Notice} {recipients : List Recipient} {office : Office}
  {flight : Flight}

theorem passed_le_taken (accounted : flight.Accounted dispatcher notice recipients office) :
    flight.passed.length ≤ flight.progress.length := by
  apply Nat.le_of_not_lt
  intro within
  have settled := accounted.ordered _ _ (List.getElem?_eq_getElem within)
  have taken := (List.getElem?_eq_some_iff.mp settled).1
  omega

theorem onward_accounted {later : Flight} (keeping : office.mailer = .keeping)
    (accounted : flight.Accounted dispatcher notice recipients office)
    (onward : Onward dispatcher notice recipients flight later) :
    later.Accounted dispatcher notice recipients office := by
  obtain ⟨events, rfl⟩ := onward
  exact run_accounted keeping accounted events

/-- The delivery that is next in order can end and its outcome be passed on. -/
theorem pass_next (keeping : office.mailer = .keeping)
    (accounted : flight.Accounted dispatcher notice recipients office)
    (begun : flight.passed.length < flight.progress.length) : ∃ later,
      Onward dispatcher notice recipients flight later ∧
        later.passed.length = flight.passed.length + 1 := by
  have within : flight.passed.length < recipients.length :=
    Nat.lt_of_lt_of_le begun accounted.taken
  have keeps : flight.office.mailer = .keeping :=
    (congrArg Office.mailer accounted.setup).trans keeping
  obtain ⟨outcome, after, leads⟩ := leads_to_end dispatcher notice
    recipients[flight.passed.length] flight.progress[flight.passed.length] flight.office keeps
  obtain ⟨later, onward, _, passed, _⟩ := leads_passes leads (List.getElem?_eq_getElem within)
    (List.getElem?_eq_getElem begun)
  refine ⟨later, onward, ?_⟩
  rw [passed, List.length_append, List.length_singleton]

/-- An outcome can be passed on as long as there are more recipients than outcomes. -/
theorem pass_more (keeping : office.mailer = .keeping)
    (accounted : flight.Accounted dispatcher notice recipients office)
    (waits : flight.passed.length < recipients.length) : ∃ later,
      Onward dispatcher notice recipients flight later ∧
        later.passed.length = flight.passed.length + 1 := by
  by_cases begun : flight.passed.length < flight.progress.length
  · exact pass_next keeping accounted begun
  · -- Every outcome was passed on, so a seat is free for one more recipient.
    have taken := passed_le_taken accounted
    have seat : 1 ≤ dispatcher.room := Nat.le_max_right dispatcher.concurrency 1
    obtain ⟨middle, first, progress, passed, _⟩ : flight.Reaches dispatcher notice recipients _ _ _ :=
      take_reaches 1 (by omega) (by omega)
    have behind : middle.passed.length < middle.progress.length := by
      rw [progress, passed, List.length_append, List.length_replicate]
      omega
    obtain ⟨later, second, more⟩ :=
      pass_next keeping (onward_accounted keeping accounted first) behind
    refine ⟨later, onward_trans first second, ?_⟩
    rw [more, passed]

/-- Whatever has happened, a flight can go on until there is an outcome for each recipient. -/
theorem completes (keeping : office.mailer = .keeping)
    (accounted : flight.Accounted dispatcher notice recipients office) : ∃ later,
      Onward dispatcher notice recipients flight later ∧
        later.passed.length = recipients.length := by
  induction missing : recipients.length - flight.passed.length generalizing flight with
  | zero =>
      have few := Nat.le_trans (passed_le_taken accounted) accounted.taken
      exact ⟨flight, ⟨[], rfl⟩, by omega⟩
  | succ missing induction =>
      obtain ⟨middle, first, passed⟩ := pass_more keeping accounted (by omega)
      obtain ⟨later, second, complete⟩ :=
        induction (onward_accounted keeping accounted first) (by omega)
      exact ⟨later, onward_trans first second, complete⟩

end Flight

end SchoolNotice
