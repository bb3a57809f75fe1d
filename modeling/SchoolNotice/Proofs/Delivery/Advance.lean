import SchoolNotice.Delivery.Flight
import SchoolNotice.Proofs.Delivery.Prepare

/-!
The steps of one delivery. Whatever else goes on in the office, a step either ends a delivery that was
cancelled or does what it would do in an office where nothing is ever cancelled. A mail is added to the
office in the step after which the mailer has replied, and a log entry in the step after which the
delivery has settled; no other step adds anything.
-/

namespace SchoolNotice

open Office (Grew Replied)

namespace Progress

def Unanswered : Progress → Prop
  | .logging .. => False
  | .settled _ => False
  | _ => True

end Progress

namespace Dispatcher

variable (dispatcher : Dispatcher) (notice : Notice) (office : Office)

/-- What one step makes of a delivery in an office, with the mails and the log entries that it adds. -/
inductive Moves (dispatcher : Dispatcher) (notice : Notice) (recipient : Recipient)
    (office : Office) : Progress → List Email → List LogEntry → Progress → Prop where
  | cancelled {stage : Progress} (unanswered : stage.Unanswered)
      (stopped : office.cancelled = true) :
      Moves dispatcher notice recipient office stage [] [] (.settled (.error .cancelled))
  | enriched {context : Context}
      (completed : (enrich false notice.tenant recipient.context office).1 = .ok context) :
      Moves dispatcher notice recipient office .enriching [] [] (.selecting context)
  | refused {context : Context} {error : DeliveryError}
      (failed : (dispatcher.compose false notice context office).1 = .error error) :
      Moves dispatcher notice recipient office (.selecting context) [] [] (.settled (.error error))
  | composed {context : Context} {source : Source} {rendered : Rendered}
      (filled : (dispatcher.compose false notice context office).1 = .ok (source, rendered)) :
      Moves dispatcher notice recipient office (.selecting context) [] []
        (.sending source (rendered.toEmail recipient.address dispatcher.sender))
  | underway {source : Source} {email : Email} :
      Moves dispatcher notice recipient office (.sending source email) [] []
        (.waiting source email)
  | answered {stage : Progress} {source : Source} {email : Email} {reply : Reply}
      {mails : List Email}
      (posted : stage = .sending source email ∨ stage = .waiting source email)
      (replied : Replied office email reply mails) :
      Moves dispatcher notice recipient office stage mails [] (.logging source email reply)
  | logged {source : Source} {email : Email} {reply : Reply} (sentAt : Instant) :
      Moves dispatcher notice recipient office (.logging source email reply) []
        [entryOf notice source email reply sentAt] (.settled (reply.mapError .transport))
  | unlogged {source : Source} {email : Email} {reply : Reply} :
      Moves dispatcher notice recipient office (.logging source email reply) [] []
        (.settled (reply.mapError .transport))
  | settled {outcome : Outcome} :
      Moves dispatcher notice recipient office (.settled outcome) [] [] (.settled outcome)

def Steps (dispatcher : Dispatcher) (notice : Notice) (recipient : Recipient) (stage : Progress)
    (office : Office) (stepped : Progress × Office) : Prop :=
  ∃ mails entries, Moves dispatcher notice recipient office stage mails entries stepped.1 ∧
    Grew mails entries office stepped.2

theorem record_grew (entry : LogEntry) :
    Grew [] [entry] office (record entry office) ∨ Grew [] [] office (record entry office) := by
  have inserted := office.insert_log_grew entry
  simp only [record, Services.insertLog, Services.note, Services.cancelled]
  rcases answered : office.insertLog entry with ⟨answer, next⟩
  rw [answered] at inserted
  dsimp only at inserted
  split
  · right
    exact Office.grew_note office _
  · rcases inserted with ⟨rfl, grew⟩ | ⟨rfl, quiet⟩
    · left
      exact grew
    · right
      exact quiet.then_quiet (Office.grew_note next _)

variable (recipient : Recipient)

theorem cancelled_steps {stage : Progress} (unanswered : stage.Unanswered)
    (stopped : office.cancelled = true) :
    Steps dispatcher notice recipient stage office
      (.settled (.error .cancelled), office.note (failure notice recipient.address .cancelled)) :=
  ⟨[], [], .cancelled unanswered stopped, Office.grew_note office _⟩

theorem enriching_steps : Steps dispatcher notice recipient .enriching office
    (dispatcher.advance notice recipient .enriching office) := by
  simp only [advance]
  rcases enrich_heeding recipient.context office notice.tenant with ⟨stopped, same⟩ | same
  · rw [same]
    exact cancelled_steps dispatcher notice office recipient trivial stopped
  · have completed := enrich_answer recipient.context office notice.tenant
    have quiet := grew_enrich recipient.context office notice.tenant
    rw [same]
    rcases found : enrich false notice.tenant recipient.context office with ⟨answer, next⟩
    rw [found] at completed quiet
    dsimp only at completed
    subst completed
    exact ⟨[], [], .enriched (congrArg Prod.fst found), quiet⟩

theorem selecting_steps (context : Context) :
    Steps dispatcher notice recipient (.selecting context) office
      (dispatcher.advance notice recipient (.selecting context) office) := by
  simp only [advance]
  rcases compose_heeding dispatcher notice context office with ⟨stopped, same⟩ | same
  · rw [same]
    exact cancelled_steps dispatcher notice office recipient trivial stopped
  · have quiet := grew_compose dispatcher notice context office
    rw [same]
    rcases found : dispatcher.compose false notice context office with ⟨composed, next⟩
    rw [found] at quiet
    have answer := congrArg Prod.fst found
    cases composed with
    | error error => exact ⟨[], [], .refused answer, quiet.then_quiet (Office.grew_note next _)⟩
    | ok composed => exact ⟨[], [], .composed answer, quiet⟩

theorem sending_steps (source : Source) (email : Email) (keeping : office.mailer = .keeping) :
    Steps dispatcher notice recipient (.sending source email) office
      (dispatcher.advance notice recipient (.sending source email) office) := by
  simp only [advance, Services.cancelled]
  split
  · next stopped => exact cancelled_steps dispatcher notice office recipient trivial stopped
  · have posted := office.post_replied email
    simp only [Services.post]
    rcases found : office.post email with ⟨answer, next⟩
    rw [found] at posted
    dsimp only at posted
    rcases posted with ⟨rfl, _, quiet⟩ | ⟨reply, mails, rfl, grew, replied⟩
    · exact ⟨[], [], .underway, quiet⟩
    · exact ⟨mails, [], .answered (.inl rfl) (replied keeping),
        grew.then_quiet (Office.grew_note next _)⟩

theorem waiting_steps (source : Source) (email : Email) :
    Steps dispatcher notice recipient (.waiting source email) office
      (dispatcher.advance notice recipient (.waiting source email) office) := by
  simp only [advance, Services.cancelled]
  split
  · next stopped => exact cancelled_steps dispatcher notice office recipient trivial stopped
  · obtain ⟨mails, replied, grew⟩ := office.collect_replied email
    exact ⟨mails, [], .answered (.inr rfl) replied, grew.then_quiet (Office.grew_note _ _)⟩

theorem logging_steps (source : Source) (email : Email) (reply : Reply) :
    Steps dispatcher notice recipient (.logging source email reply) office
      (dispatcher.advance notice recipient (.logging source email reply) office) := by
  rcases record_grew office (entryOf notice source email reply office.clock) with grew | quiet
  · exact ⟨[], _, .logged office.clock, grew⟩
  · exact ⟨[], [], .unlogged, quiet⟩

/-- Every step of a delivery is one of the moves. -/
theorem advance_steps (stage : Progress) (keeping : office.mailer = .keeping) :
    Steps dispatcher notice recipient stage office
      (dispatcher.advance notice recipient stage office) := by
  cases stage with
  | enriching => exact enriching_steps dispatcher notice office recipient
  | selecting context => exact selecting_steps dispatcher notice office recipient context
  | sending source email =>
      exact sending_steps dispatcher notice office recipient source email keeping
  | waiting source email => exact waiting_steps dispatcher notice office recipient source email
  | logging source email reply =>
      exact logging_steps dispatcher notice office recipient source email reply
  | settled outcome => exact ⟨[], [], .settled, Grew.refl office⟩

end Dispatcher

end SchoolNotice
