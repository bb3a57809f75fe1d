import SchoolNotice.Proofs.Delivery.Completion

/-!
Outcomes, mails and log entries agree. However the deliveries of a batch are interleaved, and whenever they
are cancelled, a recipient who is told of an error was sent nothing, an identifier belongs to one mail and
that mail to one recipient, and a log entry tells what the recipient's outcome tells.
-/

namespace SchoolNotice

def LogEntry.Tells (entry : LogEntry) : Outcome → Prop
  | .ok id => entry.status = .sent ∧ entry.messageId = some id ∧ entry.error = none
  | .error (.transport cause) =>
      entry.status = .failed ∧ entry.messageId = none ∧ entry.error = some cause.message
  | .error _ => False

theorem entry_tells (notice : Notice) (source : Source) (email : Email) (reply : Reply)
    (sentAt : Instant) :
    (Dispatcher.entryOf notice source email reply sentAt).Tells (reply.mapError .transport) := by
  cases reply with
  | error cause => exact ⟨rfl, rfl, rfl⟩
  | ok id => exact ⟨rfl, rfl, rfl⟩

theorem draft_recipient {dispatcher : Dispatcher} {notice : Notice} {recipient : Recipient}
    {office : Office} {source : Source} {email : Email}
    (drafted : dispatcher.draft notice recipient office = .ok (source, email)) :
    email.recipient = recipient.address := by
  unfold Dispatcher.draft at drafted
  split at drafted
  · cases drafted
    rfl
  · cases drafted

theorem mock_id_injective {count other : Nat}
    (same : "mock-" ++ toString count = "mock-" ++ toString other) : count = other := by
  have digits := congrArg String.toList ((String.append_right_inj "mock-").mp same)
  rw [Nat.toString_eq_repr, Nat.toString_eq_repr, Nat.toList_repr, Nat.toList_repr] at digits
  calc count = Nat.ofDigitChars 10 (Nat.toDigits 10 count) 0 :=
        Nat.ofDigitChars_ten_toDigits.symm
    _ = Nat.ofDigitChars 10 (Nat.toDigits 10 other) 0 := by rw [digits]
    _ = other := Nat.ofDigitChars_ten_toDigits

namespace Flight

/-- The outcomes so far agree with the mails and the log entries that the office has got since the
beginning. -/
structure Agrees (dispatcher : Dispatcher) (notice : Notice) (recipients : List Recipient)
    (office : Office) (flight : Flight) : Prop where
  /-- Outcomes are passed on in the order of the recipients. -/
  ordered : ∀ place outcome, flight.passed[place]? = some outcome → flight.OutcomeAt place outcome
  few : flight.passed.length ≤ recipients.length
  seats : flight.progress.length ≤ flight.passed.length + dispatcher.room
  /-- Each new mail has a place, and no place has two. -/
  mails : office.sent <+: flight.office.sent ∧
    flight.office.sent.length = office.sent.length + flight.mailed.length ∧ flight.mailed.Nodup
  /-- Each new log entry has a place, and no place has two. -/
  entries : office.logs <+: flight.office.logs ∧
    flight.office.logs.length = office.logs.length + flight.logged.length ∧ flight.logged.Nodup
  unmailed : ∀ place error, flight.OutcomeAt place (.error error) → place ∉ flight.mailed
  unlogged : ∀ place error, flight.OutcomeAt place (.error error) →
    (∀ cause, error ≠ .transport cause) → place ∉ flight.logged
  cancelled : ∀ place, flight.OutcomeAt place (.error .cancelled) → flight.office.cancelled = true
  /-- An error before the mailer was asked is what the delivery meets whenever it is not cancelled. -/
  early : ∀ place recipient error, recipients[place]? = some recipient →
    flight.OutcomeAt place (.error error) → error ≠ .cancelled →
      (∀ cause, error ≠ .transport cause) → dispatcher.draft notice recipient office = .error error
  /-- What the mailer replied is borne out: an identifier counts the mails in the office up to the
  recipient's own, and a mail that failed was to an address that mail does not reach. -/
  replied : ∀ place recipient, ∀ reply : Reply, recipients[place]? = some recipient →
    flight.OutcomeAt place (reply.mapError .transport) → ∃ source email,
      dispatcher.draft notice recipient office = .ok (source, email) ∧
        flight.BearsOut office place email reply
  distinct : ∀ place other id, flight.OutcomeAt place (.ok id) → flight.OutcomeAt other (.ok id) →
    place = other
  logged : ∀ (index place : Nat) entry, flight.logged[index]? = some place →
    flight.office.logs[office.logs.length + index]? = some entry →
      ∃ recipient outcome, recipients[place]? = some recipient ∧
        entry.recipient = recipient.address ∧ flight.OutcomeAt place outcome ∧ entry.Tells outcome

variable {dispatcher : Dispatcher} {notice : Notice} {recipients : List Recipient} {office : Office}
  {flight : Flight}

section Accounted

variable (accounted : flight.Accounted dispatcher notice recipients office)

include accounted

theorem error_unmailed {place : Nat} {error : DeliveryError}
    (settled : flight.OutcomeAt place (.error error)) : place ∉ flight.mailed := by
  intro member
  obtain ⟨stage, found, mailed⟩ := accounted.mailed.reached place member
  cases settled.symm.trans found
  exact mailed

theorem error_unlogged {place : Nat} {error : DeliveryError}
    (settled : flight.OutcomeAt place (.error error)) (early : ∀ cause, error ≠ .transport cause) :
    place ∉ flight.logged := by
  intro member
  obtain ⟨stage, found, reply, rfl⟩ := accounted.logged.reached place member
  have same := settled.symm.trans found
  cases reply with
  | ok id => cases same
  | error cause =>
      cases same
      exact early cause rfl

theorem recipient_of_outcome {place : Nat} {outcome : Outcome}
    (settled : flight.OutcomeAt place outcome) :
    ∃ recipient, recipients[place]? = some recipient := by
  have within := (List.getElem?_eq_some_iff.mp settled).1
  exact ⟨_, List.getElem?_eq_getElem (Nat.lt_of_lt_of_le within accounted.taken)⟩

theorem cancelled_stopped {place : Nat} (settled : flight.OutcomeAt place (.error .cancelled)) :
    flight.office.cancelled = true := by
  obtain ⟨recipient, addressed⟩ := recipient_of_outcome accounted settled
  rcases accounted.stands place recipient _ addressed settled with
    ⟨_, stopped⟩ | ⟨_, _, _, late, _⟩ | failed
  · exact stopped
  · cases late
  · exact absurd rfl (Dispatcher.draft_error dispatcher notice office failed).1

theorem reply_borne_out {place : Nat} {recipient : Recipient} {reply : Reply}
    (addressed : recipients[place]? = some recipient)
    (settled : flight.OutcomeAt place (reply.mapError .transport)) : ∃ source email,
      dispatcher.draft notice recipient office = .ok (source, email) ∧
        flight.BearsOut office place email reply := by
  have stands := accounted.stands place recipient _ addressed settled
  cases reply with
  | ok id => exact stands
  | error cause =>
      rcases stands with ⟨stop, _⟩ | ⟨_, source, email, late, drafted, borne⟩ | failed
      · cases stop
      · cases late
        exact ⟨source, email, drafted, borne⟩
      · exact absurd rfl ((Dispatcher.draft_error dispatcher notice office failed).2 cause)

theorem ids_distinct {place other : Nat} {id : String} (settled : flight.OutcomeAt place (.ok id))
    (also : flight.OutcomeAt other (.ok id)) : place = other := by
  obtain ⟨recipient, addressed⟩ := recipient_of_outcome accounted settled
  obtain ⟨fellow, known⟩ := recipient_of_outcome accounted also
  obtain ⟨_, _, _, _, index, listed, _, counted⟩ :=
    accounted.stands place recipient _ addressed settled
  obtain ⟨_, _, _, _, behind, noted, _, numbered⟩ :=
    accounted.stands other fellow _ known also
  have same := mock_id_injective (counted.symm.trans numbered)
  have equal : index = behind := by omega
  subst equal
  exact Option.some.inj (listed.symm.trans noted)

theorem entry_agrees {index place : Nat} {entry : LogEntry}
    (listed : flight.logged[index]? = some place)
    (written : flight.office.logs[office.logs.length + index]? = some entry) :
    ∃ recipient outcome, recipients[place]? = some recipient ∧
      entry.recipient = recipient.address ∧ flight.OutcomeAt place outcome ∧
        entry.Tells outcome := by
  obtain ⟨recipient, source, email, sentAt, reply, addressed, drafted, settled, rfl⟩ :=
    accounted.recorded index place entry listed written
  exact ⟨recipient, _, addressed, draft_recipient drafted, settled,
    entry_tells notice source email reply sentAt⟩

theorem agrees_of_accounted : flight.Agrees dispatcher notice recipients office := by
  constructor
  case ordered => exact accounted.ordered
  case few => exact Nat.le_trans (passed_le_taken accounted) accounted.taken
  case seats => exact accounted.seats
  case mails => exact ⟨accounted.sent, accounted.mails, accounted.mailed.once⟩
  case entries => exact ⟨accounted.logs, accounted.entries, accounted.logged.once⟩
  case unmailed =>
    intro place error settled
    exact error_unmailed accounted settled
  case unlogged =>
    intro place error settled early
    exact error_unlogged accounted settled early
  case cancelled =>
    intro place settled
    exact cancelled_stopped accounted settled
  case early =>
    intro place recipient error addressed settled uncancelled early
    rcases accounted.stands place recipient _ addressed settled with
      ⟨stop, _⟩ | ⟨cause, _, _, late, _⟩ | failed
    · exact absurd stop uncancelled
    · exact absurd late (early cause)
    · exact failed
  case replied =>
    intro place recipient reply addressed settled
    exact reply_borne_out accounted addressed settled
  case distinct =>
    intro place other id settled also
    exact ids_distinct accounted settled also
  case logged =>
    intro index place entry listed written
    exact entry_agrees accounted listed written

end Accounted

/-- Whatever happens in whatever order, the outcomes agree with the office; and whatever has happened, the
deliveries can go on until each recipient has an outcome. -/
theorem outcomes_agree (dispatcher : Dispatcher) (notice : Notice) (recipients : List Recipient)
    (office : Office) (keeping : office.mailer = .keeping) (events : List FlightEvent) :
    let flight := (ready office).run dispatcher notice recipients events
    flight.Agrees dispatcher notice recipients office ∧
      ∃ more, (flight.run dispatcher notice recipients more).passed.length = recipients.length := by
  intro flight
  have accounted : flight.Accounted dispatcher notice recipients office :=
    run_accounted keeping (ready_accounted dispatcher notice recipients office) events
  constructor
  · exact agrees_of_accounted accounted
  · obtain ⟨later, ⟨more, led⟩, complete⟩ := completes keeping accounted
    exact ⟨more, led ▸ complete⟩

def parents : List Recipient :=
  [⟨"first@school.example", Context.empty⟩, ⟨"second@school.example", Context.empty⟩]

/-- The second mail is sent and logged while the first is under way, and then all is cancelled. -/
def crossed : List FlightEvent :=
  [.take, .take, .advance 0, .advance 0, .advance 0, .advance 1, .advance 1, .advance 1, .wait,
    .advance 1, .advance 1, .cancel, .advance 0, .pass, .pass]

theorem outcomes_agree_crossed :
    let office := { Office.empty with delay := 5 }
    let notice := Notice.mk (Uuid.ofNat 7) .announcement
    let flight := (ready office).run Dispatcher.standard notice parents crossed
    office.mailer = .keeping ∧ flight.Agrees Dispatcher.standard notice parents office ∧
      flight.passed.map Except.toOption = [none, some "mock-1"] ∧ flight.mailed = [1] ∧
        flight.logged = [1] := by
  intro office notice flight
  refine ⟨rfl, ?_, ?_⟩
  · exact (outcomes_agree Dispatcher.standard notice parents office rfl crossed).1
  · decide +kernel

end Flight

end SchoolNotice
