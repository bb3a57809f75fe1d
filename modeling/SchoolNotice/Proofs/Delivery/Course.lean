import SchoolNotice.Proofs.Delivery.Cases
import SchoolNotice.Proofs.Delivery.Prepare
import SchoolNotice.Proofs.Delivery.Steady

/-!
The course of a delivery that nothing cancels. What it comes to can be told from the setup of the office and the
number of mails that were kept before: the mail is drafted, the mailer replies, and the reply is logged.
-/

namespace SchoolNotice

namespace Office

def replyTo (office : Office) (kept : Nat) (email : Email) : Reply :=
  if email.recipient ∈ office.refused then .error (.invalidAddress email.recipient)
  else
    match office.mailer with
    | .skipping id => .ok ("noop-" ++ id)
    | .keeping =>
        if email.recipient ∈ office.failing then
          .error (.sendFailed ("mock: " ++ email.recipient ++ " への送信失敗"))
        else .ok ("mock-" ++ toString (kept + 1))

def keepingOf (office : Office) (email : Email) : List Email :=
  if email.recipient ∈ office.refused ∨ office.mailer ≠ .keeping ∨
      email.recipient ∈ office.failing then []
  else [email]

def entriesOf (notice : Notice) (source : Source) (email : Email) (reply : Reply)
    (office : Office) : List LogEntry :=
  if office.logsFail then [] else [Dispatcher.entryOf notice source email reply office.clock]

/-- Mails are kept and take time, so a delivery may be under way when the next begins. -/
structure Slow (office : Office) : Prop where
  keeping : office.mailer = .keeping
  lasting : office.delay ≠ 0

structure Went (mails : List Email) (entries : List LogEntry) (before after : Office) : Prop
    extends Grew mails entries before after where
  calm : after.Calm

theorem Slow.of_setup {office other : Office} (slow : office.Slow)
    (same : office.setup = other.setup) : other.Slow := by
  constructor
  · exact (congrArg Office.mailer same).symm.trans slow.keeping
  · intro instant
    exact slow.lasting ((congrArg Office.delay same).trans instant)

section SameSetup

variable {office other : Office} (same : office.setup = other.setup)

include same

theorem refused_same_setup : office.refused = other.refused := (congrArg Office.refused same :)

theorem reply_to_same_setup : office.replyTo = other.replyTo := (congrArg Office.replyTo same :)

theorem keeping_of_same_setup : office.keepingOf = other.keepingOf :=
  (congrArg Office.keepingOf same :)

theorem entries_of_same_setup (notice : Notice) (source : Source) (email : Email) (reply : Reply) :
    office.entriesOf notice source email reply = other.entriesOf notice source email reply :=
  (congrArg (Office.entriesOf notice source email reply) same :)

end SameSetup

theorem Went.trans {mails moreMails : List Email} {entries moreEntries : List LogEntry}
    {before middle after : Office} (first : Went mails entries before middle)
    (second : Went moreMails moreEntries middle after) :
    Went (mails ++ moreMails) (entries ++ moreEntries) before after :=
  ⟨first.toGrew.trans second.toGrew, second.calm⟩

theorem Went.then_wait {mails : List Email} {entries : List LogEntry} {before after : Office}
    (went : Went mails entries before after) : Went mails entries before after.wait :=
  ⟨went.toGrew.then_quiet after.grew_wait, steady_wait went.calm⟩

theorem Grew.then_went {mails : List Email} {entries : List LogEntry} {before middle after : Office}
    (first : Grew mails [] before middle) (second : Went [] entries middle after) :
    Went mails entries before after := by
  have whole := first.trans second.toGrew
  rw [List.append_nil, List.nil_append] at whole
  exact ⟨whole, second.calm⟩

theorem grew_with_mail (office : Office) (email : Email) :
    Grew [email] [] office (office.withMail email) := by
  constructor <;> simp [withMail, setup]

theorem grew_asked (office : Office) : Grew [] [] office office.asked := by
  constructor <;> simp [asked, setup]

theorem collect_replies (office : Office) (email : Email)
    (accepted : email.recipient ∉ office.refused) (keeping : office.mailer = .keeping) :
    (office.collect email).1 = office.replyTo office.sent.length email ∧
      Grew (office.keepingOf email) [] office (office.collect email).2 := by
  by_cases fails : email.recipient ∈ office.failing
  · rw [collect_failing fails]
    simp only [replyTo, keepingOf, accepted, keeping, fails, if_true, if_false, or_true]
    exact ⟨trivial, grew_answering office .sender⟩
  · rw [collect_reached fails]
    simp only [replyTo, keepingOf, accepted, keeping, fails, if_false, false_or, ne_eq,
      not_true_eq_false]
    exact ⟨trivial, (grew_with_mail office email).then_quiet (grew_answering _ .sender)⟩

/-- A mail that is handed over is answered, or it is under way in an office where mails take time. -/
theorem post_replies (office : Office) (email : Email) :
    match office.post email with
    | (some reply, next) => reply = office.replyTo office.sent.length email ∧
        Grew (office.keepingOf email) [] office next ∧
          (office.Slow → email.recipient ∈ office.refused)
    | (none, next) => office.Slow ∧ email.recipient ∉ office.refused ∧ Grew [] [] office next := by
  by_cases refused : email.recipient ∈ office.refused
  · rw [post_refused refused]
    simp only [replyTo, keepingOf, refused, if_true, true_or]
    exact ⟨trivial, grew_answering office .sender, fun _ => trivial⟩
  · cases kind : office.mailer with
    | skipping id =>
        rw [post_skipped refused kind]
        simp only [replyTo, keepingOf, refused, kind, if_false]
        refine ⟨trivial, (grew_note office _).then_quiet (grew_answering _ .sender), ?_⟩
        intro slow
        cases kind.symm.trans slow.keeping
    | keeping =>
        by_cases instant : office.delay = 0
        · rw [post_instant refused kind instant]
          obtain ⟨replied, grew⟩ := collect_replies office.asked email refused kind
          refine ⟨replied, (grew_asked office).after_quiet grew, ?_⟩
          intro slow
          exact absurd instant slow.lasting
        · rw [post_slow refused kind instant]
          exact ⟨⟨kind, instant⟩, refused, grew_asked office⟩

end Office

/-- What one delivery comes to: its outcome, the mails that are kept and the log entries. -/
structure Course where
  outcome : Outcome
  mails : List Email
  entries : List LogEntry

/-- What a draft comes to when nothing cancels the delivery and so many mails were kept before. -/
def Course.ofDraft (notice : Notice) (kept : Nat) (drafted : Except DeliveryError (Source × Email))
    (office : Office) : Course :=
  match drafted with
  | .error error => { outcome := .error error, mails := [], entries := [] }
  | .ok (source, email) =>
      { outcome := (office.replyTo kept email).mapError .transport
        mails := office.keepingOf email
        entries := office.entriesOf notice source email (office.replyTo kept email) }

namespace Dispatcher

open Office (Grew Went)

def course (dispatcher : Dispatcher) (notice : Notice) (office : Office) (kept : Nat)
    (recipient : Recipient) : Course :=
  .ofDraft notice kept (dispatcher.draft notice recipient office) office

variable (dispatcher : Dispatcher) (notice : Notice) {office : Office} (recipient : Recipient)

theorem draft_same_setup {other : Office} (same : office.setup = other.setup) :
    dispatcher.draft notice recipient office = dispatcher.draft notice recipient other := by
  have enriched := enrich_answer recipient.context other notice.tenant
  have also := (enrich_same_setup recipient.context office same notice.tenant).trans enriched
  rw [draft_of_enriched dispatcher notice _ office recipient also,
    draft_of_enriched dispatcher notice _ other recipient enriched,
    compose_same_setup dispatcher notice _ office same]

theorem course_same_setup {other : Office} (same : office.setup = other.setup) (kept : Nat) :
    dispatcher.course notice office kept recipient =
      dispatcher.course notice other kept recipient := by
  rw [course, course, draft_same_setup dispatcher notice recipient same]
  exact (congrArg (Course.ofDraft notice kept _) same :)

section Drafts

variable {dispatcher notice recipient} {kept : Nat}

theorem course_of_error {error : DeliveryError}
    (drafted : dispatcher.draft notice recipient office = .error error) :
    dispatcher.course notice office kept recipient =
      { outcome := .error error, mails := [], entries := [] } := by
  rw [course, drafted, Course.ofDraft]

theorem course_of_draft {source : Source} {email : Email}
    (drafted : dispatcher.draft notice recipient office = .ok (source, email)) :
    dispatcher.course notice office kept recipient =
      { outcome := (office.replyTo kept email).mapError .transport
        mails := office.keepingOf email
        entries := office.entriesOf notice source email (office.replyTo kept email) } := by
  rw [course, drafted, Course.ofDraft]

end Drafts

section Going

variable (calm : office.Calm)

include calm

theorem prepare_calm (context : Context) :
    dispatcher.prepare true notice context office =
      dispatcher.prepare false notice context office := by
  have still := enrich_keeps (Office.steady_outlasts false).toOutlastsLookups true context calm
    notice.tenant
  unfold prepare
  rcases enrich_heeding context office notice.tenant with ⟨stopped, _⟩ | same
  · cases calm.cancelled.symm.trans stopped
  · rw [same] at still ⊢
    rcases enriched : enrich false notice.tenant context office with ⟨error | completed, next⟩
    · rfl
    · rw [enriched] at still
      rcases compose_heeding dispatcher notice completed next with ⟨stopped, _⟩ | same
      · cases still.cancelled.symm.trans stopped
      · exact same

theorem went_conclude (source : Source) (email : Email) (reply : Reply) :
    Went [] (office.entriesOf notice source email reply) office
      (conclude notice source email reply office).2 := by
  refine ⟨?_, conclude_keeps (Office.steady_outlasts false) notice calm source email reply⟩
  let noted := office.note (answered notice source email reply)
  let entry := entryOf notice source email reply office.clock
  have quiet := office.grew_note (answered notice source email reply)
  have going : ¬Services.cancelled noted = true := Bool.eq_false_iff.mp calm.cancelled
  rw [show (conclude notice source email reply office).2 = record entry noted from rfl, record,
    if_neg going]
  cases fails : office.logsFail with
  | true =>
      have lost : Services.insertLog entry noted = (.error Office.outage, noted.answering .logs) :=
        Office.insert_log_failing entry fails
      rw [lost, Office.entriesOf, if_pos fails]
      exact quiet.after_quiet ((Office.grew_answering _ .logs).after_quiet (Office.grew_note _ _))
  | false =>
      have kept : Services.insertLog entry noted =
          (.ok (), (noted.withEntry entry).answering .logs) := Office.insert_log_kept entry fails
      rw [kept, Office.entriesOf, if_neg (Bool.eq_false_iff.mp fails)]
      have written : Grew [] [entry] noted (noted.withEntry entry) := by
        constructor <;> simp [Office.withEntry, Office.setup]
      exact quiet.after_quiet (written.then_quiet (Office.grew_answering _ .logs))

end Going

structure Underway (dispatcher : Dispatcher) (notice : Notice) (recipient : Recipient)
    (office : Office) (source : Source) (email : Email) : Prop where
  drafted : dispatcher.draft notice recipient office = .ok (source, email)
  accepted : email.recipient ∉ office.refused
  slow : office.Slow

theorem Underway.of_setup {other : Office} {source : Source} {email : Email}
    (underway : Underway dispatcher notice recipient office source email)
    (same : office.setup = other.setup) :
    Underway dispatcher notice recipient other source email := by
  constructor
  · rw [← draft_same_setup dispatcher notice recipient same]
    exact underway.drafted
  · rw [← Office.refused_same_setup same]
    exact underway.accepted
  · exact underway.slow.of_setup same

def Begins (dispatcher : Dispatcher) (notice : Notice) (recipient : Recipient) (office : Office) :
    Standing × Office → Prop
  | (.settled outcome, next) =>
      let course := dispatcher.course notice office office.sent.length recipient
      outcome = course.outcome ∧ Went course.mails course.entries office next ∧
        (office.Slow → course.mails = [] ∧
          ∀ kept, dispatcher.course notice office kept recipient = course)
  | (.waiting source email, next) =>
      Underway dispatcher notice recipient office source email ∧ Went [] [] office next

theorem prepare_drafts (calm : office.Calm) {answer : Except DeliveryError (Source × Rendered)}
    {next : Office}
    (prepared : dispatcher.prepare true notice recipient.context office = (answer, next)) :
    Went [] [] office next ∧
      dispatcher.draft notice recipient office = answer.map fun (source, rendered) =>
        (source, rendered.toEmail recipient.address dispatcher.sender) := by
  have still := prepare_keeps (Office.steady_outlasts false).toOutlastsLookups dispatcher true
    notice recipient.context calm
  have quiet := grew_prepare dispatcher notice recipient.context office
  have same := (prepare_calm dispatcher notice calm recipient.context).symm.trans prepared
  rw [prepared] at still
  rw [same] at quiet
  refine ⟨⟨quiet, still⟩, ?_⟩
  rw [draft, same]
  cases answer with
  | error error => rfl
  | ok found => rfl

/-- A refused mail comes to the same whatever was kept before it. -/
theorem course_of_refused {source : Source} {email : Email}
    (drafted : dispatcher.draft notice recipient office = .ok (source, email))
    (refused : email.recipient ∈ office.refused) (kept : Nat) :
    dispatcher.course notice office kept recipient =
      { outcome := .error (.transport (.invalidAddress email.recipient)), mails := []
        entries := office.entriesOf notice source email
          (.error (.invalidAddress email.recipient)) } := by
  have replied : office.replyTo kept email = .error (.invalidAddress email.recipient) :=
    if_pos refused
  have unkept : office.keepingOf email = [] := if_pos (.inl refused)
  rw [course_of_draft drafted, replied, unkept]
  rfl

theorem answered_begins {source : Source} {email : Email} {reply : Reply} {next last : Office}
    (went : Went [] [] office next)
    (drafted : dispatcher.draft notice recipient office = .ok (source, email))
    (asked : next.post email = (some reply, last)) :
    Begins dispatcher notice recipient office
      (.settled (reply.mapError .transport), (conclude notice source email reply last).2) := by
  have posted := next.post_replies email
  have still := Office.steady_post went.calm email
  rw [asked] at posted still
  obtain ⟨replied, handed, refusing⟩ := posted
  have counted : next.sent = office.sent := went.sent.trans (List.append_nil _)
  rw [Office.reply_to_same_setup went.setup, counted] at replied
  subst replied
  have concluded := went_conclude notice still source email
    (office.replyTo office.sent.length email)
  have ended := (went.toGrew.after_quiet handed).then_went concluded
  rw [Office.keeping_of_same_setup went.setup,
    Office.entries_of_same_setup (handed.setup.trans went.setup)] at ended
  refine ⟨?_, ?_, ?_⟩
  · rw [course_of_draft drafted]
  · rw [course_of_draft drafted]
    exact ended
  · intro slow
    have refused := refusing (slow.of_setup went.setup.symm)
    rw [Office.refused_same_setup went.setup] at refused
    have fixed := course_of_refused dispatcher notice recipient drafted refused
    rw [fixed]
    exact ⟨rfl, fixed⟩

theorem start_begins (calm : office.Calm) :
    Begins dispatcher notice recipient office (dispatcher.start notice recipient office) := by
  have started := start_cases dispatcher notice recipient office
  generalize dispatcher.start notice recipient office = begun at started ⊢
  cases started with
  | @failed error next prepared =>
      obtain ⟨went, drafted⟩ := prepare_drafts dispatcher notice recipient calm prepared
      have noted := went.toGrew.then_quiet (next.grew_note (failure notice recipient.address error))
      simp only [Begins, course_of_error drafted]
      exact ⟨trivial, ⟨noted, Office.steady_note went.calm _⟩, fun _ => ⟨trivial, fun _ => trivial⟩⟩
  | @stopped source rendered next prepared stopped =>
      obtain ⟨went, _⟩ := prepare_drafts dispatcher notice recipient calm prepared
      cases went.calm.cancelled.symm.trans stopped
  | @underway source rendered email next last prepared going addressed asked =>
      obtain ⟨went, drafted⟩ := prepare_drafts dispatcher notice recipient calm prepared
      simp only [Except.map, addressed] at drafted
      have posted := next.post_replies email
      have sent := Office.steady_post went.calm email
      rw [show next.post email = (none, last) from asked] at posted sent
      obtain ⟨slow, accepted, handed⟩ := posted
      rw [Office.refused_same_setup went.setup] at accepted
      exact ⟨⟨drafted, accepted, slow.of_setup went.setup⟩, went.toGrew.then_quiet handed, sent⟩
  | @answered source rendered email next last reply prepared going addressed asked =>
      obtain ⟨went, drafted⟩ := prepare_drafts dispatcher notice recipient calm prepared
      simp only [Except.map, addressed] at drafted
      exact answered_begins dispatcher notice recipient went drafted asked

theorem land_went {source : Source} {email : Email}
    (underway : Underway dispatcher notice recipient office source email) (calm : office.Calm) :
    let landed := land notice (.waiting source email) office
    let course := dispatcher.course notice office office.sent.length recipient
    landed.1 = course.outcome ∧ Went course.mails course.entries office landed.2 := by
  have going : ¬Services.cancelled office = true := Bool.eq_false_iff.mp calm.cancelled
  obtain ⟨replied, handed⟩ := office.collect_replies email underway.accepted
    underway.slow.keeping
  have concluded := went_conclude notice (Office.steady_collect calm email) source email
    (office.collect email).1
  have went := handed.then_went concluded
  rw [Office.entries_of_same_setup handed.setup, replied] at went
  rw [course_of_draft underway.drafted, land]
  dsimp only
  rw [if_neg going]
  rw [← replied] at went ⊢
  exact ⟨rfl, went⟩

/-- A delivery that nothing cancels comes to what its course says. -/
theorem dispatch_went (calm : office.Calm) :
    let delivered := dispatcher.dispatch notice recipient office
    let course := dispatcher.course notice office office.sent.length recipient
    delivered.1 = course.outcome ∧ Went course.mails course.entries office delivered.2 := by
  have begun := start_begins dispatcher notice recipient calm
  unfold dispatch
  rcases started : dispatcher.start notice recipient office with ⟨⟨source, email⟩ | outcome, next⟩
  · rw [started] at begun
    obtain ⟨underway, went⟩ := begun
    have waited := went.then_wait
    have same := waited.setup
    have counted : next.wait.sent = office.sent := waited.sent.trans (List.append_nil _)
    obtain ⟨outcome, landed⟩ := land_went dispatcher notice recipient
      (underway.of_setup dispatcher notice recipient same.symm) waited.calm
    rw [course_same_setup dispatcher notice recipient same, counted] at outcome landed
    exact ⟨outcome, waited.trans landed⟩
  · rw [started] at begun
    exact ⟨begun.1, begun.2.1⟩

end Dispatcher

end SchoolNotice
