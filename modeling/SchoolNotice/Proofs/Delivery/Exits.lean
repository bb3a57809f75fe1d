import SchoolNotice.Proofs.Delivery.Books
import SchoolNotice.Proofs.Delivery.Cases
import SchoolNotice.Proofs.Delivery.OneByOne

/-!
What the books have got when a delivery ends. A delivery that meets an error before the mailer is asked has at
most looked up the tenant; one whose mail fails has sent nothing, and has asked the mailer once unless the address
is refused before that.
-/

namespace SchoolNotice

def Context.lookups (context : Context) : Nat := if context.hasCompleteBranding then 0 else 1

namespace Books

def aside (attempts lookups : Nat) (events : List Event) : Books :=
  ⟨[], [], attempts, lookups, events⟩

theorem append_unchanged (books : Books) : books ++ aside 0 0 [] = books := append_empty books

theorem append_aside (books : Books) (attempts more lookups further : Nat)
    (events others : List Event) :
    books ++ aside attempts lookups events ++ aside more further others =
      books ++ aside (attempts + more) (lookups + further) (events ++ others) := by
  rw [append_assoc]
  rfl

theorem append_attempts (books : Books) (attempts lookups : Nat) (events : List Event) :
    books ++ aside 0 lookups events ++ aside attempts 0 [] =
      books ++ aside attempts lookups events := by
  rw [append_aside, Nat.zero_add, Nat.add_zero, List.append_nil]

/-- The parts that a delivery adds one after another: up to the mail, with the mail, and when it ends. -/
theorem append_parts (books : Books) (mails : List Email) (entries : List LogEntry)
    (tried attempts lookups : Nat) (before between after : List Event) :
    books ++ aside tried lookups before ++ ⟨mails, [], attempts, 0, between⟩ ++
        ⟨[], entries, 0, 0, after⟩ =
      books ++ ⟨mails, entries, tried + attempts, lookups, before ++ between ++ after⟩ := by
  simp only [aside, append_mk, List.append_nil, List.append_assoc, Nat.add_zero, Nat.add_assoc]

end Books

namespace Office

variable (office : Office) (email : Email)

theorem collect_adds : ∃ mails,
    (office.collect email).2.books = office.books ++ ⟨mails, [], 0, 0, []⟩ ∧
      ∀ cause, (office.collect email).1 = .error cause → mails = [] := by
  by_cases fails : email.recipient ∈ office.failing
  · rw [collect_failing fails, books_answering]
    refine ⟨[], (Books.append_empty _).symm, ?_⟩
    intro cause failed
    rfl
  · rw [collect_reached fails, books_answering, books_with_mail]
    refine ⟨[email], rfl, ?_⟩
    intro cause failed
    cases failed

/-- A mail that is not refused counts as an attempt, whether it fails or not. -/
def tries (recipient : String) : Nat := if recipient ∈ office.refused then 0 else 1

theorem tries_of_accepted {recipient : String} (accepted : recipient ∉ office.refused) :
    office.tries recipient = 1 := if_neg accepted

theorem tries_same_setup {other : Office} (same : office.setup = other.setup) (recipient : String) :
    office.tries recipient = other.tries recipient :=
  (congrArg (fun setup => setup.tries recipient) same :)

theorem post_adds :
    match office.post email with
    | (none, next) => next.books = office.books ++ Books.aside (office.tries email.recipient) 0 []
    | (some reply, next) => ∃ mails attempts events,
        next.books = office.books ++ ⟨mails, [], attempts, 0, events⟩ ∧
          ∀ cause, reply = .error cause → mails = [] ∧ attempts = office.tries email.recipient := by
  unfold tries
  by_cases refused : email.recipient ∈ office.refused
  · rw [post_refused refused, if_pos refused]
    refine ⟨[], 0, [], ?_, ?_⟩
    · rw [books_answering]
      exact (Books.append_empty _).symm
    · intro cause failed
      exact ⟨rfl, rfl⟩
  · rw [if_neg refused]
    cases kind : office.mailer with
    | skipping id =>
        rw [post_skipped refused kind]
        refine ⟨[], 0, [.mailSkipped email.recipient email.subject ("noop-" ++ id)], ?_, ?_⟩
        · rw [books_answering, books_note]
          rfl
        · intro cause failed
          cases failed
    | keeping =>
        by_cases instant : office.delay = 0
        · rw [post_instant refused kind instant]
          obtain ⟨mails, books, failing⟩ := collect_adds office.asked email
          refine ⟨mails, 1, [], ?_, ?_⟩
          · rw [books, books_asked, Books.append_assoc]
            rfl
          · intro cause failed
            exact ⟨failing cause failed, rfl⟩
        · rw [post_slow refused kind instant]
          exact books_asked office

end Office

namespace Dispatcher

/-- The error of a notice for which there is no template, or none that can be read. -/
def Untemplated (notice : Notice) (error : DeliveryError) : Prop :=
  (∃ cause, error = .templateLookup cause) ∨ error = .templateNotFound notice.tenant notice.kind

inductive Ends (notice : Notice) (recipient : Recipient) (office : Office) :
    Outcome → Office → Prop where
  | cancelled {after : Office} (attempts lookups : Nat) (events : List Event)
      (added : after.books = office.books ++ Books.aside attempts lookups events) :
      Ends notice recipient office (.error .cancelled) after
  | untemplated {error : DeliveryError} {after : Office} (early : Untemplated notice error)
      (events : List Event)
      (added : after.books = office.books ++ Books.aside 0 recipient.context.lookups events) :
      Ends notice recipient office (.error error) after
  | answered {reply : Reply} {after : Office} (mails : List Email) (entries : List LogEntry)
      (attempts : Nat) (events : List Event)
      (failed : ∀ cause, reply = .error cause →
        mails = [] ∧ attempts = office.tries recipient.address)
      (added : after.books =
        office.books ++ ⟨mails, entries, attempts, recipient.context.lookups, events⟩) :
      Ends notice recipient office (reply.mapError .transport) after

variable (dispatcher : Dispatcher) (notice : Notice) (context : Context) (office : Office)

theorem enrich_adds (tenant : Uuid) :
    (enrich true tenant context office = (.error .cancelled, office)) ∨
      ∃ completed events, (enrich true tenant context office).1 = .ok completed ∧
        (enrich true tenant context office).2.books =
          office.books ++ Books.aside 0 context.lookups events := by
  unfold enrich Context.lookups
  split
  · right
    exact ⟨context, [], rfl, (Books.append_unchanged _).symm⟩
  · split
    · left
      rfl
    · right
      have looked : (office.findProfile tenant).2.books = office.books ++ Books.aside 0 1 [] :=
        (Office.books_answering office.consulted .tenants).trans office.books_consulted
      simp only [Services.findProfile, Services.note]
      rcases found : office.findProfile tenant with ⟨error | _ | profile, next⟩
      · rw [found] at looked
        refine ⟨context, [.tenantLookupFailed tenant error], rfl, ?_⟩
        rw [Office.books_note, looked]
        exact Books.append_aside ..
      · rw [found] at looked
        refine ⟨context, [.tenantUnknown tenant], rfl, ?_⟩
        rw [Office.books_note, looked]
        exact Books.append_aside ..
      · rw [found] at looked
        exact ⟨_, [], rfl, looked⟩

theorem compose_adds :
    (dispatcher.compose true notice context office = (.error .cancelled, office)) ∨
      (∃ events, (dispatcher.compose true notice context office).2.books =
          office.books ++ Books.aside 0 0 events) ∧
        ∀ error, (dispatcher.compose true notice context office).1 = .error error →
          Untemplated notice error := by
  rcases compose_heeding dispatcher notice context office with ⟨_, stopped⟩ | same
  · left
    exact stopped
  · right
    rw [same]
    constructor
    · have selected : (dispatcher.select notice office).2.books = office.books :=
        office.books_answering .templates
      simp only [compose, Bool.false_and, Bool.false_eq_true, if_false, Services.note]
      rcases chosen : dispatcher.select notice office with ⟨error | template, next⟩
      · rw [chosen] at selected
        exact ⟨[], selected.trans (Books.append_unchanged _).symm⟩
      · rw [chosen] at selected
        refine ⟨[.rendered template.source template.theme], ?_⟩
        rw [Office.books_note, selected]
        rfl
    · intro error failed
      exact compose_error dispatcher notice context office failed

theorem prepare_adds : ∃ lookups events,
    (dispatcher.prepare true notice context office).2.books =
        office.books ++ Books.aside 0 lookups events ∧
      ((dispatcher.prepare true notice context office).1 = .error .cancelled ∨
        lookups = context.lookups ∧
          ∀ error, (dispatcher.prepare true notice context office).1 = .error error →
            Untemplated notice error) := by
  unfold prepare
  rcases enrich_adds context office notice.tenant with stopped | ⟨completed, events, done, books⟩
  · rw [stopped]
    exact ⟨0, [], (Books.append_unchanged _).symm, .inl rfl⟩
  · rcases enriched : enrich true notice.tenant context office with ⟨answer, next⟩
    rw [enriched] at done books
    cases done
    dsimp only at books ⊢
    rcases compose_adds dispatcher notice completed next with stopped | ⟨⟨more, added⟩, early⟩
    · rw [stopped]
      exact ⟨_, _, books, .inl rfl⟩
    · refine ⟨context.lookups, events ++ more, ?_, .inr ⟨rfl, early⟩⟩
      rw [added, books]
      exact Books.append_aside ..

theorem record_adds (entry : LogEntry) : ∃ entries events,
    (record entry office).books = office.books ++ ⟨[], entries, 0, 0, events⟩ := by
  simp only [record, Services.insertLog, Services.note]
  split
  · exact ⟨[], [.logSkipped], office.books_note _⟩
  · cases fails : office.logsFail with
    | true =>
        rw [Office.insert_log_failing entry fails]
        refine ⟨[], [.logFailed Office.outage], ?_⟩
        dsimp only
        rw [Office.books_note, Office.books_answering]
        rfl
    | false =>
        rw [Office.insert_log_kept entry fails]
        refine ⟨[entry], [], ?_⟩
        dsimp only
        rw [Office.books_answering, Office.books_with_entry]
        rfl

theorem conclude_adds (source : Source) (email : Email) (reply : Reply) : ∃ entries events,
    (conclude notice source email reply office).2.books =
      office.books ++ ⟨[], entries, 0, 0, events⟩ := by
  let noted := office.note (answered notice source email reply)
  obtain ⟨entries, events, recorded⟩ :=
    record_adds noted (entryOf notice source email reply office.clock)
  refine ⟨entries, .cons (answered notice source email reply) events, ?_⟩
  refine Eq.trans recorded ?_
  rw [Office.books_note, Books.append_assoc]
  rfl

/-- The delivery has ended, or the mailer was asked and nothing else happened but lookups. -/
def Pauses (notice : Notice) (recipient : Recipient) (office : Office) : Standing → Office → Prop
  | .settled outcome, next => Ends notice recipient office outcome next
  | .waiting _ email, next => email.recipient = recipient.address ∧ ∃ events, next.books =
      office.books ++
        Books.aside (office.tries recipient.address) recipient.context.lookups events

variable (recipient : Recipient)

theorem start_pauses :
    Pauses notice recipient office (dispatcher.start notice recipient office).1
      (dispatcher.start notice recipient office).2 := by
  obtain ⟨lookups, events, books, exits⟩ := prepare_adds dispatcher notice recipient.context office
  have setup := prepare_setup dispatcher notice office recipient.context
  have started := start_cases dispatcher notice recipient office
  generalize dispatcher.start notice recipient office = begun at started ⊢
  cases started with
  | @failed error next prepared =>
      rw [prepared] at books exits
      have noted := next.books_note (failure notice recipient.address error)
      rw [show next.books = _ from books] at noted
      rcases exits with stopped | ⟨rfl, early⟩
      · cases stopped
        exact .cancelled _ _ _ (noted.trans (Books.append_aside ..))
      · exact .untemplated (early error rfl) _ (noted.trans (Books.append_aside ..))
  | @stopped source rendered next prepared stopped =>
      rw [prepared] at books
      have noted := next.books_note (failure notice recipient.address .cancelled)
      rw [show next.books = _ from books] at noted
      exact .cancelled _ _ _ (noted.trans (Books.append_aside ..))
  | @underway source rendered email next last prepared going addressed asked =>
      rw [prepared] at books exits setup
      obtain stopped | ⟨rfl, _⟩ := exits
      · cases stopped
      have posted := next.post_adds email
      rw [show next.post email = (none, last) from asked] at posted
      subst addressed
      refine ⟨rfl, events, ?_⟩
      rw [← Office.tries_same_setup next setup, ← Books.append_attempts, ← books]
      exact posted
  | @answered source rendered email next last reply prepared going addressed asked =>
      rw [prepared] at books exits setup
      obtain stopped | ⟨rfl, _⟩ := exits
      · cases stopped
      have posted := next.post_adds email
      rw [show next.post email = (some reply, last) from asked] at posted
      subst addressed
      obtain ⟨mails, attempts, more, added, failed⟩ := posted
      obtain ⟨entries, others, concluded⟩ := conclude_adds notice last source _ reply
      rw [added, show next.books = _ from books, Books.append_parts] at concluded
      refine .answered mails entries (0 + attempts) _ ?_ concluded
      intro cause replied
      obtain ⟨unsent, counted⟩ := failed cause replied
      have tries := Office.tries_same_setup next setup recipient.address
      exact ⟨unsent, (Nat.zero_add attempts).trans (counted.trans tries)⟩

theorem land_ends {standing : Standing} {next : Office}
    (pauses : Pauses notice recipient office standing next) :
    Ends notice recipient office (land notice standing next).1 (land notice standing next).2 := by
  cases standing with
  | settled outcome => exact pauses
  | waiting source email =>
      obtain ⟨_, events, books⟩ := pauses
      unfold land
      dsimp only
      by_cases stopped : Services.cancelled next
      · rw [if_pos stopped]
        have noted := next.books_note (failure notice email.recipient .cancelled)
        rw [books] at noted
        exact .cancelled _ _ _ (noted.trans (Books.append_aside ..))
      · rw [if_neg stopped]
        obtain ⟨mails, added, failed⟩ := next.collect_adds email
        obtain ⟨entries, others, concluded⟩ :=
          conclude_adds notice (next.collect email).2 source email (next.collect email).1
        rw [added, books, Books.append_parts] at concluded
        refine .answered mails entries (office.tries recipient.address + 0) _ ?_ concluded
        intro cause replied
        exact ⟨failed cause replied, Nat.add_zero _⟩

theorem dispatch_ends :
    Ends notice recipient office (dispatcher.dispatch notice recipient office).1
      (dispatcher.dispatch notice recipient office).2 := by
  have pauses := start_pauses dispatcher notice office recipient
  unfold dispatch
  rcases started : dispatcher.start notice recipient office with ⟨standing, next⟩
  rw [started] at pauses
  cases standing with
  | settled outcome => exact pauses
  | waiting source email =>
      obtain ⟨addressed, events, books⟩ := pauses
      have waited : Pauses notice recipient office (.waiting source email) next.wait :=
        ⟨addressed, events, next.books_wait.trans books⟩
      exact land_ends notice office recipient waited

end Dispatcher

/-- The error is met before the mailer is asked. -/
def DeliveryError.Early : DeliveryError → Prop
  | .templateNotFound .. => True
  | .templateLookup _ => True
  | _ => False

structure Office.Unspent (lookups : Nat) (before after : Office) : Prop where
  sent : after.sent = before.sent
  logs : after.logs = before.logs
  attempts : after.attempts = before.attempts
  lookups : after.lookups = before.lookups + lookups

namespace Dispatcher

variable {notice : Notice} {recipient : Recipient} {office after : Office} {outcome : Outcome}
  (ends : Ends notice recipient office outcome after)

include ends

theorem early_unspent {error : DeliveryError} (failed : outcome = .error error)
    (early : error.Early) : office.Unspent recipient.context.lookups after := by
  cases ends with
  | cancelled =>
      cases failed
      exact early.elim
  | untemplated _ events added =>
      constructor
      · exact (congrArg Books.mails added).trans (List.append_nil _)
      · exact (congrArg Books.entries added).trans (List.append_nil _)
      · exact (congrArg Books.attempts added :)
      · exact (congrArg Books.lookups added :)
  | @answered reply =>
      cases reply with
      | ok id => cases failed
      | error cause =>
          cases failed
          exact early.elim

theorem transport_spent {cause : SendError} (failed : outcome = .error (.transport cause)) :
    after.sent = office.sent ∧
      after.attempts = office.attempts + office.tries recipient.address := by
  cases ends with
  | cancelled => cases failed
  | untemplated early =>
      cases failed
      rcases early with ⟨_, other⟩ | other
      · cases other
      · cases other
  | @answered reply _ mails entries attempts events tried added =>
      cases reply with
      | ok id => cases failed
      | error reason =>
          obtain ⟨unsent, counted⟩ := tried reason rfl
          subst unsent counted
          constructor
          · exact (congrArg Books.mails added).trans (List.append_nil _)
          · exact (congrArg Books.attempts added :)

end Dispatcher

end SchoolNotice
