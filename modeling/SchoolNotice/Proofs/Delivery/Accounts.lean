import SchoolNotice.Proofs.Delivery.Events

/-!
What a flight has to show for its deliveries. Each place of the recipients owns at most one mail and at most
one log entry, and owns them only if its delivery has come as far as the step that adds them. All of this is
kept by every event, so it holds whenever a flight is looked at.
-/

namespace SchoolNotice

open Dispatcher (Moves)

namespace Progress

def Mailed : Progress → Prop
  | .logging _ _ (.ok _) => True
  | .settled (.ok _) => True
  | _ => False

def Answered (progress : Progress) : Prop :=
  ∃ reply : Reply, progress = .settled (reply.mapError .transport)

end Progress

section Moves

variable {dispatcher : Dispatcher} {notice : Notice} {recipient : Recipient} {office : Office}
  {stage next : Progress} {mails : List Email} {entries : List LogEntry}

theorem moves_mailed (moves : Moves dispatcher notice recipient office stage mails entries next) :
    (stage.Mailed → next.Mailed) ∧ (mails ≠ [] → ¬ stage.Mailed ∧ next.Mailed) := by
  cases moves with
  | cancelled unanswered => cases stage <;> simp_all [Progress.Unanswered, Progress.Mailed]
  | enriched => simp [Progress.Mailed]
  | refused => simp [Progress.Mailed]
  | composed => simp [Progress.Mailed]
  | underway => simp [Progress.Mailed]
  | answered posted replied =>
      rcases posted with rfl | rfl <;> cases replied <;> simp [Progress.Mailed]
  | logged =>
      rename_i reply _
      cases reply with
      | ok => exact ⟨fun _ => trivial, absurd rfl⟩
      | error => exact ⟨id, absurd rfl⟩
  | unlogged =>
      rename_i reply
      cases reply with
      | ok => exact ⟨fun _ => trivial, absurd rfl⟩
      | error => exact ⟨id, absurd rfl⟩
  | settled => simp

theorem moves_entry (moves : Moves dispatcher notice recipient office stage mails entries next)
    {entry : LogEntry} (added : entry ∈ entries) : ∃ source email reply sentAt,
      stage = .logging source email reply ∧ next = .settled (reply.mapError .transport) ∧
        entry = Dispatcher.entryOf notice source email reply sentAt := by
  cases moves with
  | logged sentAt => exact ⟨_, _, _, sentAt, rfl, rfl, List.mem_singleton.mp added⟩
  | _ => simp at added

theorem moves_answered (moves : Moves dispatcher notice recipient office stage mails entries next) :
    (stage.Answered → next.Answered) ∧ (entries ≠ [] → ¬ stage.Answered ∧ next.Answered) := by
  constructor
  · rintro ⟨reply, rfl⟩
    exact ⟨reply, moves_settled moves⟩
  · intro some_entry
    obtain ⟨entry, added⟩ := List.exists_mem_of_ne_nil entries some_entry
    obtain ⟨source, email, reply, sentAt, rfl, ends, _⟩ := moves_entry moves added
    exact ⟨by simp [Progress.Answered], reply, ends⟩

end Moves

/-- Each place is listed once at most, and only if the delivery there has come far enough. -/
structure Listed (far : Progress → Prop) (places : List Nat) (progress : List Progress) : Prop where
  once : places.Nodup
  reached : ∀ place ∈ places, ∃ stage, progress[place]? = some stage ∧ far stage

theorem listed_taken {far : Progress → Prop} {places : List Nat} {progress : List Progress}
    (listed : Listed far places progress) (stage : Progress) :
    Listed far places (progress ++ [stage]) := by
  refine ⟨listed.once, ?_⟩
  intro place member
  obtain ⟨reached, found, enough⟩ := listed.reached place member
  exact ⟨reached, found_of_prefix (List.prefix_append _ _) found, enough⟩

theorem listed_moved {α : Type} {far : Progress → Prop} {places : List Nat}
    {progress : List Progress} {place : Nat} {stage next : Progress} {added : List α}
    (listed : Listed far places progress) (stood : progress[place]? = some stage)
    (few : added.length ≤ 1)
    (further : (far stage → far next) ∧ (added ≠ [] → ¬ far stage ∧ far next)) :
    Listed far (places ++ List.replicate added.length place) (progress.set place next) := by
  have within : place < progress.length := (List.getElem?_eq_some_iff.mp stood).1
  have still : ∀ other ∈ places, ∃ reached, (progress.set place next)[other]? = some reached ∧
      far reached := by
    intro other member
    obtain ⟨reached, found, enough⟩ := listed.reached other member
    by_cases same : place = other
    · subst other
      rw [stood] at found
      cases found
      exact ⟨next, List.getElem?_set_self within, further.1 enough⟩
    · exact ⟨reached, by rw [List.getElem?_set_ne same, found], enough⟩
  -- A place is listed anew only by the step with which its delivery comes far enough.
  match added with
  | [] =>
      rw [List.length_nil, List.replicate_zero, List.append_nil]
      exact ⟨listed.once, still⟩
  | [_] =>
      obtain ⟨short, enough⟩ := further.2 (List.cons_ne_nil _ _)
      have fresh : place ∉ places := by
        intro member
        obtain ⟨reached, found, reachedEnough⟩ := listed.reached place member
        rw [stood] at found
        cases found
        exact short reachedEnough
      simp only [List.length_singleton, List.replicate_one]
      constructor
      · rw [List.nodup_append]
        refine ⟨listed.once, by simp, ?_⟩
        intro other member new listedNew same
        rw [List.mem_singleton.mp listedNew] at same
        exact fresh (same ▸ member)
      · intro other member
        rcases List.mem_append.mp member with earlier | new
        · exact still other earlier
        · rw [List.mem_singleton.mp new]
          exact ⟨next, List.getElem?_set_self within, enough⟩
  | _ :: _ :: _ => simp at few

namespace Flight

variable (dispatcher : Dispatcher) (notice : Notice) (recipients : List Recipient) (office : Office)

def Posted (flight : Flight) (place : Nat) (email : Email) (id : String) : Prop :=
  ∃ index : Nat, flight.mailed[index]? = some place ∧
    flight.office.sent[office.sent.length + index]? = some email ∧
      id = "mock-" ++ toString (office.sent.length + index + 1)

def BearsOut (flight : Flight) (place : Nat) (email : Email) : Reply → Prop
  | .ok id => email.recipient ∉ office.failing ∧ flight.Posted office place email id
  | .error _ => email.recipient ∈ office.failing ∨ email.recipient ∈ office.refused

def Stands (flight : Flight) (place : Nat) (recipient : Recipient) : Progress → Prop
  | .enriching => True
  | .selecting context =>
      (Dispatcher.enrich false notice.tenant recipient.context office).1 = .ok context
  | .sending source email => dispatcher.draft notice recipient office = .ok (source, email)
  | .waiting source email => dispatcher.draft notice recipient office = .ok (source, email)
  | .logging source email reply =>
      dispatcher.draft notice recipient office = .ok (source, email) ∧
        flight.BearsOut office place email reply
  | .settled (.ok id) =>
      ∃ source email, dispatcher.draft notice recipient office = .ok (source, email) ∧
        flight.BearsOut office place email (.ok id)
  | .settled (.error error) =>
      (error = .cancelled ∧ flight.office.cancelled = true) ∨
        (∃ cause source email, error = .transport cause ∧
          dispatcher.draft notice recipient office = .ok (source, email) ∧
            flight.BearsOut office place email (.error cause)) ∨
        dispatcher.draft notice recipient office = .error error

def Recorded (flight : Flight) (place : Nat) (entry : LogEntry) : Prop :=
  ∃ recipient source email sentAt, ∃ reply : Reply, recipients[place]? = some recipient ∧
    dispatcher.draft notice recipient office = .ok (source, email) ∧
      flight.OutcomeAt place (reply.mapError .transport) ∧
        entry = Dispatcher.entryOf notice source email reply sentAt

/-- What every event keeps: the office has only grown, by as many mails and log entries as are noted, and
every delivery stands as it should. -/
structure Accounted (flight : Flight) : Prop where
  setup : flight.office.setup = office.setup
  sent : office.sent <+: flight.office.sent
  logs : office.logs <+: flight.office.logs
  mails : flight.office.sent.length = office.sent.length + flight.mailed.length
  entries : flight.office.logs.length = office.logs.length + flight.logged.length
  taken : flight.progress.length ≤ recipients.length
  seats : flight.progress.length ≤ flight.passed.length + dispatcher.room
  ordered : ∀ place outcome, flight.passed[place]? = some outcome → flight.OutcomeAt place outcome
  mailed : Listed Progress.Mailed flight.mailed flight.progress
  logged : Listed Progress.Answered flight.logged flight.progress
  stands : ∀ place recipient stage, recipients[place]? = some recipient →
    flight.progress[place]? = some stage →
      flight.Stands dispatcher notice office place recipient stage
  recorded : ∀ (index place : Nat) entry, flight.logged[index]? = some place →
    flight.office.logs[office.logs.length + index]? = some entry →
      flight.Recorded dispatcher notice recipients office place entry

theorem ready_accounted : (ready office).Accounted dispatcher notice recipients office := by
  constructor <;> simp [ready]
  · exact ⟨List.nodup_nil, by simp⟩
  · exact ⟨List.nodup_nil, by simp⟩

variable {dispatcher notice recipients office} {flight next : Flight}

theorem posted_kept (occurs : Occurs dispatcher notice recipients flight next) {place : Nat}
    {email : Email} {id : String} (posted : flight.Posted office place email id) :
    next.Posted office place email id := by
  obtain ⟨mailed, _, sent, _⟩ := occurs_extends_books occurs
  obtain ⟨index, noted, kept, counted⟩ := posted
  exact ⟨index, found_of_prefix mailed noted, found_of_prefix sent kept, counted⟩

theorem borne_out_kept (occurs : Occurs dispatcher notice recipients flight next) {place : Nat}
    {email : Email} {reply : Reply} (borne : flight.BearsOut office place email reply) :
    next.BearsOut office place email reply := by
  cases reply with
  | error cause => exact borne
  | ok id => exact ⟨borne.1, posted_kept occurs borne.2⟩

theorem stands_kept (occurs : Occurs dispatcher notice recipients flight next) {place : Nat}
    {recipient : Recipient} {stage : Progress}
    (stands : flight.Stands dispatcher notice office place recipient stage) :
    next.Stands dispatcher notice office place recipient stage := by
  cases stage with
  | logging source email reply => exact ⟨stands.1, borne_out_kept occurs stands.2⟩
  | settled outcome =>
      cases outcome with
      | error error =>
          rcases stands with ⟨stop, stopped⟩ | rest
          · exact .inl ⟨stop, occurs_keeps_cancelled occurs stopped⟩
          · exact .inr rest
      | ok id =>
          obtain ⟨source, email, drafted, borne⟩ := stands
          exact ⟨source, email, drafted, borne_out_kept occurs borne⟩
  | _ => exact stands

theorem recorded_kept (occurs : Occurs dispatcher notice recipients flight next) {place : Nat}
    {entry : LogEntry} (recorded : flight.Recorded dispatcher notice recipients office place entry) :
    next.Recorded dispatcher notice recipients office place entry := by
  obtain ⟨recipient, source, email, sentAt, reply, addressed, drafted, settled, written⟩ := recorded
  exact ⟨recipient, source, email, sentAt, reply, addressed, drafted,
    occurs_keeps_outcome occurs settled, written⟩

theorem replied_stands {place : Nat} {recipient : Recipient} {source : Source} {email : Email}
    {reply : Reply}
    (stands : flight.Stands dispatcher notice office place recipient
      (.logging source email reply)) :
    flight.Stands dispatcher notice office place recipient
      (.settled (reply.mapError .transport)) := by
  obtain ⟨drafted, borne⟩ := stands
  cases reply with
  | error cause => exact .inr (.inl ⟨cause, source, email, rfl, drafted, borne⟩)
  | ok id => exact ⟨source, email, drafted, borne⟩

theorem moves_stands (occurs : Occurs dispatcher notice recipients flight next)
    (setup : flight.office.setup = office.setup)
    (counted : flight.office.sent.length = office.sent.length + flight.mailed.length)
    {place : Nat} {recipient : Recipient} {stage after : Progress} {mails : List Email}
    {entries : List LogEntry}
    (moves : Moves dispatcher notice recipient flight.office stage mails entries after)
    (noted : next.mailed = flight.mailed ++ List.replicate mails.length place)
    (sent : next.office.sent = flight.office.sent ++ mails)
    (stands : flight.Stands dispatcher notice office place recipient stage) :
    next.Stands dispatcher notice office place recipient after := by
  cases moves with
  | cancelled _ stopped => exact .inl ⟨rfl, occurs_keeps_cancelled occurs stopped⟩
  | enriched completed =>
      exact (Dispatcher.enrich_same_setup _ _ setup _).symm.trans completed
  | refused failed =>
      right
      right
      rw [Dispatcher.compose_same_setup dispatcher notice _ _ setup] at failed
      rw [Dispatcher.draft_of_enriched dispatcher notice _ office recipient stands, failed]
      rfl
  | composed filled =>
      unfold Stands
      rw [Dispatcher.compose_same_setup dispatcher notice _ _ setup] at filled
      rw [Dispatcher.draft_of_enriched dispatcher notice _ office recipient stands, filled]
      rfl
  | underway => exact stands
  | @answered _ source email _ _ posted replied =>
      have drafted : dispatcher.draft notice recipient office = .ok (source, email) := by
        rcases posted with rfl | rfl <;> exact stands
      refine ⟨drafted, ?_⟩
      -- The mail that this step adds is the last in the books.
      have failing : flight.office.failing = office.failing := by
        simpa only [Office.setup] using congrArg Office.failing setup
      have refused : flight.office.refused = office.refused := by
        simpa only [Office.setup] using congrArg Office.refused setup
      cases replied with
      | failed error unreached =>
          rw [failing, refused] at unreached
          exact unreached
      | kept reached =>
          rw [failing] at reached
          refine ⟨reached, flight.mailed.length, ?_, ?_, ?_⟩
          · simp [noted]
          · simp [sent, ← counted]
          · rw [counted]
  | logged => exact stands_kept occurs (replied_stands stands)
  | unlogged => exact stands_kept occurs (replied_stands stands)
  | settled => exact stands_kept occurs stands

theorem occurs_stands (occurs : Occurs dispatcher notice recipients flight next)
    (accounted : flight.Accounted dispatcher notice recipients office) (place : Nat)
    (recipient : Recipient) (stage : Progress) (addressed : recipients[place]? = some recipient)
    (stood : next.progress[place]? = some stage) :
    next.Stands dispatcher notice office place recipient stage := by
  have before := accounted.stands place recipient
  have still : ∀ stage, flight.Stands dispatcher notice office place recipient stage →
      next.Stands dispatcher notice office place recipient stage := by
    intro stage
    exact stands_kept occurs
  cases occurs with
  | taken waits seat =>
      rcases found_in_concat stood with earlier | ⟨_, rfl⟩
      · exact still stage (before stage addressed earlier)
      · trivial
  | @moved other owner reached after mails entries changed owned found moves grew =>
      by_cases same : other = place
      · subst other
        rw [addressed] at owned
        cases owned
        rw [List.getElem?_set_self (List.getElem?_eq_some_iff.mp found).1] at stood
        cases stood
        exact moves_stands (.moved addressed found moves grew) accounted.setup accounted.mails
          moves rfl grew.sent (before reached addressed found)
      · rw [List.getElem?_set_ne same] at stood
        exact still stage (before stage addressed stood)
  | _ => exact still stage (before stage addressed stood)

theorem occurs_recorded (occurs : Occurs dispatcher notice recipients flight next)
    (accounted : flight.Accounted dispatcher notice recipients office) (index place : Nat)
    (entry : LogEntry) (listed : next.logged[index]? = some place)
    (written : next.office.logs[office.logs.length + index]? = some entry) :
    next.Recorded dispatcher notice recipients office place entry := by
  have before := accounted.recorded index place entry
  have still : flight.Recorded dispatcher notice recipients office place entry →
      next.Recorded dispatcher notice recipients office place entry := recorded_kept occurs
  cases occurs with
  | @moved other owner reached after mails entries changed owned found moves grew =>
      have counted := accounted.entries
      dsimp only at listed written
      rw [grew.logs] at written
      by_cases old : index < flight.logged.length
      · rw [List.getElem?_append_left old] at listed
        rw [List.getElem?_append_left (by omega)] at written
        exact still (before listed written)
      · rw [List.getElem?_append_right (by omega)] at listed written
        rw [List.eq_of_mem_replicate (List.mem_of_getElem? listed)]
        obtain ⟨source, email, reply, sentAt, rfl, ends, made⟩ :=
          moves_entry moves (List.mem_of_getElem? written)
        obtain ⟨drafted, _⟩ := accounted.stands other owner _ owned found
        refine ⟨owner, source, email, sentAt, reply, owned, drafted, ?_, made⟩
        unfold OutcomeAt
        rw [← ends]
        exact List.getElem?_set_self (List.getElem?_eq_some_iff.mp found).1
  | elapsed quiet =>
      apply still
      apply before listed
      simpa only [quiet.logs, List.append_nil] using written
  | _ => exact still (before listed written)

theorem occurs_ordered (occurs : Occurs dispatcher notice recipients flight next)
    (accounted : flight.Accounted dispatcher notice recipients office) (place : Nat)
    (outcome : Outcome) (handed : next.passed[place]? = some outcome) :
    next.OutcomeAt place outcome := by
  apply occurs_keeps_outcome occurs
  have before := accounted.ordered place outcome
  cases occurs with
  | passed settled =>
      rcases found_in_concat handed with earlier | ⟨rfl, rfl⟩
      · exact before earlier
      · exact settled
  | _ => exact before handed

theorem occurs_listed (occurs : Occurs dispatcher notice recipients flight next)
    (accounted : flight.Accounted dispatcher notice recipients office) :
    Listed Progress.Mailed next.mailed next.progress ∧
      Listed Progress.Answered next.logged next.progress := by
  have mailed := accounted.mailed
  have logged := accounted.logged
  cases occurs with
  | taken => exact ⟨listed_taken mailed _, listed_taken logged _⟩
  | moved _ found moves _ =>
      obtain ⟨fewMails, fewEntries⟩ := moves_add_few moves
      exact ⟨listed_moved mailed found fewMails (moves_mailed moves),
        listed_moved logged found fewEntries (moves_answered moves)⟩
  | _ => exact ⟨mailed, logged⟩

theorem occurs_counted (occurs : Occurs dispatcher notice recipients flight next)
    (accounted : flight.Accounted dispatcher notice recipients office) :
    next.office.setup = office.setup ∧
      next.office.sent.length = office.sent.length + next.mailed.length ∧
      next.office.logs.length = office.logs.length + next.logged.length := by
  have setup := accounted.setup
  have mails := accounted.mails
  have entries := accounted.entries
  cases occurs with
  | moved _ _ _ grew =>
      refine ⟨grew.setup.trans setup, ?_, ?_⟩
      · simp only [grew.sent, List.length_append, List.length_replicate]
        omega
      · simp only [grew.logs, List.length_append, List.length_replicate]
        omega
  | elapsed quiet =>
      refine ⟨quiet.setup.trans setup, ?_, ?_⟩
      · simpa only [quiet.sent, List.append_nil] using mails
      · simpa only [quiet.logs, List.append_nil] using entries
  | _ => exact ⟨setup, mails, entries⟩

theorem occurs_seated (occurs : Occurs dispatcher notice recipients flight next)
    (accounted : flight.Accounted dispatcher notice recipients office) :
    next.progress.length ≤ recipients.length ∧
      next.progress.length ≤ next.passed.length + dispatcher.room := by
  have taken := accounted.taken
  have seats := accounted.seats
  cases occurs with
  | nothing => exact ⟨taken, seats⟩
  | taken waits seat =>
      rw [List.length_append, List.length_singleton]
      exact ⟨waits, seat⟩
  | moved =>
      rw [List.length_set]
      exact ⟨taken, seats⟩
  | passed =>
      rw [List.length_append]
      exact ⟨taken, by dsimp only; omega⟩
  | elapsed => exact ⟨taken, seats⟩

/-- Every event keeps the accounts of a flight. -/
theorem occurs_accounted (occurs : Occurs dispatcher notice recipients flight next)
    (accounted : flight.Accounted dispatcher notice recipients office) :
    next.Accounted dispatcher notice recipients office := by
  obtain ⟨_, _, sent, logs⟩ := occurs_extends_books occurs
  obtain ⟨setup, mails, entries⟩ := occurs_counted occurs accounted
  obtain ⟨taken, seats⟩ := occurs_seated occurs accounted
  obtain ⟨mailed, logged⟩ := occurs_listed occurs accounted
  exact
    { setup := setup
      sent := accounted.sent.trans sent
      logs := accounted.logs.trans logs
      mails := mails
      entries := entries
      taken := taken
      seats := seats
      ordered := occurs_ordered occurs accounted
      mailed := mailed
      logged := logged
      stands := occurs_stands occurs accounted
      recorded := occurs_recorded occurs accounted }

theorem run_accounted (keeping : office.mailer = .keeping)
    (accounted : flight.Accounted dispatcher notice recipients office) (events : List FlightEvent) :
    (flight.run dispatcher notice recipients events).Accounted dispatcher notice recipients
      office := by
  unfold run
  induction events generalizing flight with
  | nil => exact accounted
  | cons event rest induction =>
      have still : flight.office.mailer = .keeping :=
        (congrArg Office.mailer accounted.setup).trans keeping
      exact induction (occurs_accounted (step_occurs still event) accounted)

end Flight

end SchoolNotice
