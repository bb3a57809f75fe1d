import SchoolNotice.Proofs.Delivery.Advance

/-!
What an event makes of a flight. Of all that the events of a flight change, the deliveries under way, their
outcomes and the books of the office only ever get further: an outcome stays as it is, and nothing is
removed from the books.
-/

namespace SchoolNotice

open Office (Grew)
open Dispatcher (Moves)

namespace Flight

inductive Occurs (dispatcher : Dispatcher) (notice : Notice) (recipients : List Recipient)
    (flight : Flight) : Flight → Prop where
  | nothing : Occurs dispatcher notice recipients flight flight
  | taken (waits : flight.progress.length < recipients.length)
      (seat : flight.progress.length < flight.passed.length + dispatcher.room) :
      Occurs dispatcher notice recipients flight
        { flight with progress := flight.progress ++ [.enriching] }
  | moved {place : Nat} {recipient : Recipient} {stage next : Progress} {mails : List Email}
      {entries : List LogEntry} {office : Office} (addressed : recipients[place]? = some recipient)
      (stood : flight.progress[place]? = some stage)
      (moves : Moves dispatcher notice recipient flight.office stage mails entries next)
      (grew : Grew mails entries flight.office office) :
      Occurs dispatcher notice recipients flight
        { flight with
          progress := flight.progress.set place next
          office := office
          mailed := flight.mailed ++ List.replicate mails.length place
          logged := flight.logged ++ List.replicate entries.length place }
  | passed {outcome : Outcome} (settled : flight.OutcomeAt flight.passed.length outcome) :
      Occurs dispatcher notice recipients flight
        { flight with passed := flight.passed ++ [outcome] }
  | elapsed {office : Office} (quiet : Grew [] [] flight.office office) :
      Occurs dispatcher notice recipients flight { flight with office := office }

end Flight

theorem found_of_prefix {α : Type} {before after : List α} {place : Nat} {found : α}
    (continued : before <+: after) (at_place : before[place]? = some found) :
    after[place]? = some found := by
  obtain ⟨behind, rfl⟩ := continued
  obtain ⟨within, _⟩ := List.getElem?_eq_some_iff.mp at_place
  rw [List.getElem?_append_left within, at_place]

theorem found_in_concat {α : Type} {list : List α} {last found : α} {place : Nat}
    (at_place : (list ++ [last])[place]? = some found) :
    list[place]? = some found ∨ (place = list.length ∧ found = last) := by
  by_cases earlier : place < list.length
  · left
    rwa [List.getElem?_append_left earlier] at at_place
  · right
    rw [List.getElem?_append_right (by omega), List.getElem?_singleton] at at_place
    split at at_place
    · cases at_place
      exact ⟨by omega, rfl⟩
    · cases at_place

section Moves

variable {dispatcher : Dispatcher} {notice : Notice} {recipient : Recipient} {office : Office}
  {stage next : Progress} {mails : List Email} {entries : List LogEntry}

theorem moves_add_few (moves : Moves dispatcher notice recipient office stage mails entries next) :
    mails.length ≤ 1 ∧ entries.length ≤ 1 := by
  cases moves with
  | answered posted replied => cases replied <;> simp
  | _ => simp

theorem moves_settled {outcome : Outcome} (moves : Moves dispatcher notice recipient office
    (.settled outcome) mails entries next) : next = .settled outcome := by
  cases moves with
  | cancelled unanswered => exact unanswered.elim
  | answered posted replied => simp at posted
  | settled => rfl

end Moves

namespace Flight

theorem noted_grown (place before count : Nat) (places : List Nat) (few : count ≤ 1) :
    noted place before (before + count) places = places ++ List.replicate count place := by
  unfold noted
  have cases : count = 0 ∨ count = 1 := by omega
  rcases cases with rfl | rfl
  · simp
  · simp

variable {dispatcher : Dispatcher} {notice : Notice} {recipients : List Recipient}
  {flight next : Flight}

theorem advance_occurs (keeping : flight.office.mailer = .keeping) (place : Nat) :
    Occurs dispatcher notice recipients flight
      (flight.step dispatcher notice recipients (.advance place)) := by
  simp only [step]
  split
  · next recipient stage addressed stood =>
    obtain ⟨mails, entries, moves, grew⟩ :=
      dispatcher.advance_steps notice flight.office recipient stage keeping
    obtain ⟨fewMails, fewEntries⟩ := moves_add_few moves
    rw [grew.sent, grew.logs, List.length_append, List.length_append,
      noted_grown _ _ _ _ fewMails, noted_grown _ _ _ _ fewEntries]
    exact .moved addressed stood moves grew
  · exact .nothing

theorem step_occurs (keeping : flight.office.mailer = .keeping) (event : FlightEvent) :
    Occurs dispatcher notice recipients flight
      (flight.step dispatcher notice recipients event) := by
  cases event with
  | take =>
      simp only [step]
      split
      · next room =>
        simp only [hasRoom, Bool.and_eq_true, decide_eq_true_eq] at room
        exact .taken room.1 room.2
      · exact .nothing
  | advance place => exact advance_occurs keeping place
  | pass =>
      simp only [step]
      split
      · next settled => exact .passed settled
      · exact .nothing
  | wait => exact .elapsed (Office.grew_wait flight.office)
  | cancel => exact .elapsed (Office.grew_cancel flight.office)

theorem occurs_extends_books (occurs : Occurs dispatcher notice recipients flight next) :
    flight.mailed <+: next.mailed ∧ flight.logged <+: next.logged ∧
      flight.office.sent <+: next.office.sent ∧ flight.office.logs <+: next.office.logs := by
  cases occurs with
  | nothing => simp
  | taken => simp
  | moved _ _ _ grew => simp [grew.sent, grew.logs]
  | passed => simp
  | elapsed quiet => simp [quiet.sent, quiet.logs]

theorem occurs_keeps_cancelled (occurs : Occurs dispatcher notice recipients flight next)
    (stopped : flight.office.cancelled = true) : next.office.cancelled = true := by
  cases occurs with
  | moved _ _ _ grew => exact grew.cancelled stopped
  | elapsed quiet => exact quiet.cancelled stopped
  | _ => exact stopped

/-- A delivery that has settled does not change any more. -/
theorem occurs_keeps_outcome (occurs : Occurs dispatcher notice recipients flight next) {place : Nat}
    {outcome : Outcome} (settled : flight.OutcomeAt place outcome) :
    next.OutcomeAt place outcome := by
  unfold OutcomeAt at settled ⊢
  cases occurs with
  | nothing => exact settled
  | taken => exact found_of_prefix (List.prefix_append _ _) settled
  | @moved other recipient stage after mails entries office addressed stood moves grew =>
      -- A delivery at another place is not touched, and one that has settled moves nowhere.
      by_cases same : other = place
      · subst other
        rw [settled] at stood
        cases stood
        rw [moves_settled moves]
        exact List.getElem?_set_self (List.getElem?_eq_some_iff.mp settled).1
      · rw [List.getElem?_set_ne same]
        exact settled
  | passed => exact settled
  | elapsed => exact settled

end Flight

end SchoolNotice
