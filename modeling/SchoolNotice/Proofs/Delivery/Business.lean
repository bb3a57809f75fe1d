import SchoolNotice.Proofs.Delivery.Course
import SchoolNotice.Proofs.Delivery.Exits

/-!
Business events. A delivery reports its end as one business event where the mailer replied, and as none where the
delivery ended before that; a preview that is shown reports it. Where mails are kept, the mails that an office
gets are as many as the events that report a mail sent.
-/

namespace SchoolNotice

namespace Event

def text? (event : Event) (field : String) : Option String :=
  (Json.Members.get? field event.fields).bind Json.asString?

def isBusiness (event : Event) : Bool := event.text? "event.kind" == some "business_event"

def isSent (event : Event) : Bool := event.text? "event.action" == some "notification.sent"

structure Concerns (notice : Notice) (action result : String) (event : Event) : Prop where
  business : event.isBusiness = true
  action : event.text? "event.action" = some action
  result : event.text? "event.result" = some result
  tenant : event.text? "event.tenant_id" = some notice.tenant.text
  kind : event.text? "notification.template_type" = some notice.kind.name

theorem concerns_of_fields {notice : Notice} {action result : String} {event : Event}
    {more : List (String × Json)}
    (fields : event.fields = businessFields action notice.tenant notice.kind result ++ more) :
    event.Concerns notice action result := by
  constructor <;>
    simp [isBusiness, text?, fields, businessFields, Json.Members.get?, Json.asString?]

theorem Concerns.unsent {notice : Notice} {action result : String} {event : Event}
    (concerns : event.Concerns notice action result) (other : action ≠ "notification.sent") :
    event.isSent = false := by
  rw [isSent, concerns.action]
  exact beq_eq_false_iff_ne.mpr fun same => other (Option.some.inj same)

end Event

/-- What a delivery with this outcome reports: the reply if the mailer gave one. -/
inductive Reports (notice : Notice) (address : String) : Outcome → List Event → Prop where
  | sent {id : String} {event : Event}
      (concerns : event.Concerns notice "notification.sent" "success")
      (addressed : event.text? "notification.recipient" = some address)
      (identified : event.text? "notification.message_id" = some id) :
      Reports notice address (.ok id) [event]
  | failed {cause : SendError} {event : Event}
      (concerns : event.Concerns notice "notification.failed" "failure")
      (addressed : event.text? "notification.recipient" = some address)
      (explained : event.text? "error" = some cause.message) :
      Reports notice address (.error (.transport cause)) [event]
  | nothing {error : DeliveryError} (unanswered : ∀ cause, error ≠ .transport cause) :
      Reports notice address (.error error) []

inductive Previews (notice : Notice) : Except DeliveryError Rendered → List Event → Prop where
  | shown {rendered : Rendered} {event : Event}
      (concerns : event.Concerns notice "notification.rendered" "success") :
      Previews notice (.ok rendered) [event]
  | nothing {error : DeliveryError} : Previews notice (.error error) []

section Reports

variable {notice : Notice} {address : String} {outcome : Outcome} {report : List Event}
  (reports : Reports notice address outcome report)

include reports

theorem reports_few : report.length ≤ 1 := by
  cases reports with
  | sent | failed => exact Nat.le_refl 1
  | nothing => exact Nat.zero_le 1

theorem reports_addressed :
    ∀ event ∈ report, event.text? "notification.recipient" = some address := by
  cases reports with
  | sent concerns addressed | failed concerns addressed =>
      exact List.forall_mem_singleton.mpr addressed
  | nothing => exact List.forall_mem_nil _

theorem reports_failed {error : DeliveryError} (failed : outcome = .error error) :
    ∀ event ∈ report, event.text? "event.action" = some "notification.failed" := by
  cases reports with
  | sent => cases failed
  | failed concerns => exact List.forall_mem_singleton.mpr concerns.action
  | nothing => exact List.forall_mem_nil _

theorem reports_counted : report.countP Event.isSent = if outcome.isOk then 1 else 0 := by
  cases reports with
  | @sent id event concerns =>
      have sent : event.isSent = true := beq_iff_eq.mpr concerns.action
      rw [List.countP_singleton, if_pos sent]
      rfl
  | failed concerns =>
      rw [List.countP_singleton, concerns.unsent (by decide)]
      rfl
  | nothing => rfl

end Reports

theorem previews_unsent {notice : Notice} {shown : Except DeliveryError Rendered}
    {report : List Event} (previews : Previews notice shown report) :
    report.countP Event.isSent = 0 := by
  cases previews with
  | shown concerns =>
      rw [List.countP_singleton, concerns.unsent (by decide)]
      rfl
  | nothing => rfl

theorem reports_answered (notice : Notice) (source : Source) (email : Email) (reply : Reply) :
    Reports notice email.recipient (reply.mapError .transport)
      [Dispatcher.answered notice source email reply] := by
  cases reply with
  | ok id => exact .sent (Event.concerns_of_fields rfl) rfl rfl
  | error cause => exact .failed (Event.concerns_of_fields rfl) rfl rfl

namespace Office

def business (office : Office) : List Event := office.events.filter Event.isBusiness

/-- How many mails belong to a report: as many as it says were sent, where mails are kept. -/
def mailed (office : Office) (report : List Event) : Nat :=
  if office.mailer = .keeping then report.countP Event.isSent else 0

/-- These business events were added, with the mails that belong to them. -/
structure Told (report : List Event) (before after : Office) : Prop where
  setup : after.setup = before.setup
  business : after.business = before.business ++ report
  mails : after.sent.length = before.sent.length + before.mailed report

theorem mailed_same_setup {office other : Office} (same : office.setup = other.setup) :
    office.mailed = other.mailed := (congrArg Office.mailed same :)

theorem mailed_append (office : Office) (report more : List Event) :
    office.mailed (report ++ more) = office.mailed report + office.mailed more := by
  unfold mailed
  split
  · exact List.countP_append
  · rfl

theorem mailed_unsent (office : Office) {report : List Event}
    (unsent : ∀ event ∈ report, event.isSent = false) : office.mailed report = 0 := by
  have none : report.countP Event.isSent = 0 := by
    apply List.countP_eq_zero.mpr
    intro event member
    exact Bool.eq_false_iff.mp (unsent event member)
  rw [mailed, none, ite_self]

namespace Told

variable {report more : List Event} {before middle after : Office}

theorem refl (office : Office) : Told [] office office := by
  refine ⟨rfl, (List.append_nil _).symm, ?_⟩
  rw [mailed_unsent office (List.forall_mem_nil _), Nat.add_zero]

theorem trans (first : Told report before middle) (second : Told more middle after) :
    Told (report ++ more) before after := by
  constructor
  · exact second.setup.trans first.setup
  · rw [second.business, first.business, List.append_assoc]
  · rw [second.mails, first.mails, mailed_same_setup first.setup, mailed_append, Nat.add_assoc]

theorem after_nothing (first : Told [] before middle) (second : Told report middle after) :
    Told report before after :=
  first.trans second

theorem then_nothing (first : Told report before middle) (second : Told [] middle after) :
    Told report before after := by
  simpa only [List.append_nil] using first.trans second

end Told

/-- A change that keeps the mails that belong to what it reports. -/
theorem Grew.told {mails : List Email} {entries : List LogEntry} {report : List Event}
    {before after : Office} (grew : Grew mails entries before after)
    (business : after.business = before.business ++ report)
    (counted : mails.length = before.mailed report) : Told report before after := by
  refine ⟨grew.setup, business, ?_⟩
  rw [grew.sent, List.length_append, counted]

/-- A change that keeps no mail and reports nothing. -/
theorem Grew.told_nothing {entries : List LogEntry} {before after : Office}
    (grew : Grew [] entries before after) (same : after.business = before.business) :
    Told [] before after := by
  refine grew.told (same.trans (List.append_nil _).symm) ?_
  exact (mailed_unsent before (List.forall_mem_nil _)).symm

section Calls

variable (office : Office)

theorem business_note {event : Event} (business : event.isBusiness = true) :
    (office.note event).business = office.business ++ [event] := by
  rw [Office.business, note, List.filter_append, List.filter_cons_of_pos business]
  rfl

theorem business_note_aside {event : Event} (aside : event.isBusiness = false) :
    (office.note event).business = office.business := by
  have other : ¬event.isBusiness = true := Bool.eq_false_iff.mp aside
  rw [Office.business, note, List.filter_append, List.filter_cons_of_neg other]
  exact List.append_nil _

theorem told_aside {event : Event} (aside : event.isBusiness = false) :
    Told [] office (office.note event) :=
  (office.grew_note event).told_nothing (office.business_note_aside aside)

theorem told_event {event : Event} (business : event.isBusiness = true)
    (unsent : event.isSent = false) : Told [event] office (office.note event) := by
  refine (office.grew_note event).told (office.business_note business) ?_
  exact (mailed_unsent office (List.forall_mem_singleton.mpr unsent)).symm

theorem business_answering (service : Collaborator) :
    (office.answering service).business = office.business :=
  congrArg (fun books => books.events.filter Event.isBusiness) (office.books_answering service)

theorem told_answering (service : Collaborator) : Told [] office (office.answering service) :=
  (office.grew_answering service).told_nothing (office.business_answering service)

theorem told_wait : Told [] office office.wait :=
  office.grew_wait.told_nothing
    (congrArg (fun books => books.events.filter Event.isBusiness) office.books_wait)

theorem told_find_profile (tenant : Uuid) : Told [] office (office.findProfile tenant).2 :=
  (office.grew_find_profile tenant).told_nothing (office.consulted.business_answering .tenants)

theorem told_find_active (tenant : Uuid) (kind : Kind) :
    Told [] office (office.findActive tenant kind).2 :=
  told_answering office .templates

variable (email : Email)

theorem business_collect : (office.collect email).2.business = office.business := by
  by_cases fails : email.recipient ∈ office.failing
  · rw [collect_failing fails]
    exact business_answering office .sender
  · rw [collect_reached fails]
    exact business_answering (office.withMail email) .sender

theorem business_post : (office.post email).2.business = office.business := by
  by_cases refused : email.recipient ∈ office.refused
  · rw [post_refused refused]
    exact business_answering office .sender
  · cases kind : office.mailer with
    | skipping id =>
        rw [post_skipped refused kind]
        exact (business_answering _ .sender).trans (business_note_aside office rfl)
    | keeping =>
        by_cases instant : office.delay = 0
        · rw [post_instant refused kind instant]
          exact business_collect office.asked email
        · rw [post_slow refused kind instant]
          rfl

theorem mailed_answered_ok (notice : Notice) (source : Source) (id : String) :
    office.mailed [Dispatcher.answered notice source email (.ok id)] =
      if office.mailer = .keeping then 1 else 0 := rfl

theorem mailed_answered_error (notice : Notice) (source : Source) (cause : SendError) :
    office.mailed [Dispatcher.answered notice source email (.error cause)] = 0 :=
  mailed_unsent office (List.forall_mem_singleton.mpr rfl)

/-- Where mails are kept, a mail is kept just when it is reported sent. -/
theorem mailed_answered (notice : Notice) (source : Source) (kept : Nat) :
    (office.keepingOf email).length =
      office.mailed [Dispatcher.answered notice source email (office.replyTo kept email)] := by
  unfold keepingOf replyTo
  by_cases refused : email.recipient ∈ office.refused
  · rw [if_pos (.inl refused), if_pos refused, mailed_answered_error]
    rfl
  · rw [if_neg refused]
    cases kind : office.mailer with
    | skipping id =>
        simp only [ne_eq, reduceCtorEq, not_false_eq_true, true_or, or_true, if_true]
        rw [mailed_answered_ok, kind]
        rfl
    | keeping =>
        by_cases fails : email.recipient ∈ office.failing
        · simp only [fails, or_true, if_true]
          rw [mailed_answered_error]
          rfl
        · simp only [refused, fails, ne_eq, not_true_eq_false, or_false, if_false]
          rw [mailed_answered_ok, if_pos kind]
          rfl

end Calls

end Office

namespace Dispatcher

open Office (Grew Told)

variable (dispatcher : Dispatcher) (notice : Notice) (context : Context) (office : Office)

section Preparing

variable (heed : Bool)

theorem told_enrich (tenant : Uuid) :
    Told [] office (enrich heed tenant context office).2 := by
  have found := office.told_find_profile tenant
  unfold enrich
  split
  · exact .refl office
  · split
    · exact .refl office
    · simp only [Services.findProfile, Services.note]
      rcases answer : office.findProfile tenant with ⟨error | _ | profile, next⟩
      · rw [answer] at found
        exact found.then_nothing (next.told_aside rfl)
      · rw [answer] at found
        exact found.then_nothing (next.told_aside rfl)
      · rw [answer] at found
        exact found

theorem told_compose : Told [] office (dispatcher.compose heed notice context office).2 := by
  have selected : Told [] office (dispatcher.select notice office).2 :=
    office.told_find_active notice.tenant notice.kind
  unfold compose
  split
  · exact .refl office
  · rcases answer : dispatcher.select notice office with ⟨error | template, next⟩
    · rw [answer] at selected
      exact selected
    · rw [answer] at selected
      exact selected.then_nothing (next.told_aside rfl)

theorem told_prepare : Told [] office (dispatcher.prepare heed notice context office).2 := by
  have enriched := told_enrich context office heed notice.tenant
  unfold prepare
  rcases answer : enrich heed notice.tenant context office with ⟨error | completed, next⟩
  · rw [answer] at enriched
    exact enriched
  · rw [answer] at enriched
    exact enriched.then_nothing (told_compose dispatcher notice completed next heed)

end Preparing

/-- A preview reports that it is shown, and nothing else. -/
theorem preview_told : ∃ report,
    Previews notice (dispatcher.preview notice context office).1 report ∧
      Told report office (dispatcher.preview notice context office).2 := by
  have prepared := told_prepare dispatcher notice context office false
  unfold preview
  rcases answer : dispatcher.prepare false notice context office with
    ⟨error | ⟨source, rendered⟩, next⟩
  · rw [answer] at prepared
    exact ⟨[], .nothing, prepared⟩
  · rw [answer] at prepared
    let event := Event.previewed notice.tenant notice.kind source
    have concerns : event.Concerns notice "notification.rendered" "success" :=
      Event.concerns_of_fields rfl
    exact ⟨[event], .shown concerns, prepared.trans (next.told_event concerns.business rfl)⟩

theorem failure_aside (address : String) (error : DeliveryError) :
    (failure notice address error).isBusiness = false := by
  cases error with
  | _ => rfl

theorem told_failure (address : String) (error : DeliveryError) :
    Told [] office (office.note (failure notice address error)) :=
  office.told_aside (failure_aside notice address error)

theorem business_record (entry : LogEntry) : (record entry office).business = office.business := by
  unfold record
  split
  · exact office.business_note_aside rfl
  · cases fails : office.logsFail with
    | true =>
        simp only [Services.insertLog, Office.insert_log_failing entry fails]
        exact (Office.business_note_aside _ rfl).trans (office.business_answering .logs)
    | false =>
        simp only [Services.insertLog, Office.insert_log_kept entry fails]
        exact (office.withEntry entry).business_answering .logs

variable (source : Source) (email : Email)

theorem business_conclude (reply : Reply) :
    (conclude notice source email reply office).2.business =
      office.business ++ [answered notice source email reply] := by
  have business : (answered notice source email reply).isBusiness = true := by
    cases reply with
    | _ => rfl
  exact (business_record _ _).trans (office.business_note business)

theorem conclude_grew (reply : Reply) :
    ∃ entries, Grew [] entries office (conclude notice source email reply office).2 := by
  have noted := office.grew_note (answered notice source email reply)
  rcases record_grew (office.note (answered notice source email reply))
    (entryOf notice source email reply office.clock) with written | quiet
  · exact ⟨_, noted.after_quiet written⟩
  · exact ⟨_, noted.after_quiet quiet⟩

/-- The mailer has replied, and the delivery ends with the report of the reply. -/
theorem conclude_told {reply : Reply} {before : Office} (kept : Nat)
    (replied : reply = before.replyTo kept email)
    (handed : Grew (before.keepingOf email) [] before office)
    (same : office.business = before.business) :
    Told [answered notice source email reply] before
      (conclude notice source email reply office).2 := by
  obtain ⟨entries, concluded⟩ := conclude_grew notice office source email reply
  have grew := handed.trans concluded
  rw [List.append_nil] at grew
  refine grew.told ?_ ?_
  · rw [business_conclude, same]
  · rw [replied, ← Office.mailed_answered before email notice source kept]

/-- A delivery that meets an error before the mailer is asked has met no error of the mailer. -/
theorem prepare_untransported {error : DeliveryError} {next : Office}
    (prepared : dispatcher.prepare true notice context office = (.error error, next)) :
    ∀ cause, error ≠ .transport cause := by
  obtain ⟨_, _, _, exits⟩ := prepare_adds dispatcher notice context office
  rw [prepared] at exits
  rcases exits with stopped | ⟨_, early⟩
  · cases stopped
    exact nofun
  · rcases early error rfl with ⟨reason, rfl⟩ | rfl
    · exact nofun
    · exact nofun

/-- The delivery has ended with its report, or its mail is under way and it has reported nothing. In an office
where mails take time, only a mail that is refused has a report when it is handed over. -/
def Starts (notice : Notice) (recipient : Recipient) (office : Office) : Standing → Office → Prop
  | .settled outcome, next => ∃ report, Reports notice recipient.address outcome report ∧
      Told report office next ∧ (office.Slow → report ≠ [] →
        recipient.address ∈ office.refused ∧ ∃ error, outcome = .error error)
  | .waiting _ email, next => email.recipient = recipient.address ∧ office.Slow ∧
      recipient.address ∉ office.refused ∧ Told [] office next

theorem start_told (recipient : Recipient) :
    Starts notice recipient office (dispatcher.start notice recipient office).1
      (dispatcher.start notice recipient office).2 := by
  have quiet := told_prepare dispatcher notice recipient.context office true
  have started := start_cases dispatcher notice recipient office
  generalize dispatcher.start notice recipient office = begun at started ⊢
  cases started with
  | @failed error next prepared =>
      rw [prepared] at quiet
      have early := prepare_untransported dispatcher notice recipient.context office prepared
      have ended := quiet.then_nothing (told_failure notice next recipient.address error)
      exact ⟨[], .nothing early, ended, fun _ some => absurd rfl some⟩
  | @stopped source rendered next prepared stopped =>
      rw [prepared] at quiet
      have ended := quiet.then_nothing (told_failure notice next recipient.address .cancelled)
      exact ⟨[], .nothing nofun, ended, fun _ some => absurd rfl some⟩
  | @underway source rendered email next last prepared going addressed asked =>
      rw [prepared] at quiet
      have posted := next.post_replies email
      have same := next.business_post email
      rw [show next.post email = (none, last) from asked] at posted same
      obtain ⟨slow, accepted, handed⟩ := posted
      rw [Office.refused_same_setup quiet.setup] at accepted
      subst addressed
      exact ⟨rfl, slow.of_setup quiet.setup, accepted,
        quiet.then_nothing (handed.told_nothing same)⟩
  | @answered source rendered email next last reply prepared going addressed asked =>
      rw [prepared] at quiet
      have posted := next.post_replies email
      have same := next.business_post email
      rw [show next.post email = (some reply, last) from asked] at posted same
      obtain ⟨replied, handed, refusing⟩ := posted
      have ended := conclude_told notice last source email _ replied handed same
      have reports := reports_answered notice source email reply
      subst addressed
      refine ⟨_, reports, quiet.after_nothing ended, ?_⟩
      intro slow _
      have refused := refusing (slow.of_setup quiet.setup.symm)
      rw [Office.replyTo, if_pos refused] at replied
      rw [Office.refused_same_setup quiet.setup] at refused
      exact ⟨refused, _, congrArg (Except.mapError DeliveryError.transport) replied⟩

/-- A delivery whose mail is under way ends with its report. -/
theorem land_told (accepted : email.recipient ∉ office.refused)
    (keeping : office.mailer = .keeping) : ∃ report,
      Reports notice email.recipient (land notice (.waiting source email) office).1 report ∧
        Told report office (land notice (.waiting source email) office).2 := by
  unfold land
  dsimp only
  split
  · exact ⟨[], .nothing nofun, told_failure notice office email.recipient .cancelled⟩
  · obtain ⟨replied, handed⟩ := office.collect_replies email accepted keeping
    have same := office.business_collect email
    exact ⟨_, reports_answered notice source email _,
      conclude_told notice _ source email _ replied handed same⟩

/-- A delivery has one report or none, as its outcome says. -/
theorem dispatch_told (recipient : Recipient) : ∃ report,
    Reports notice recipient.address (dispatcher.dispatch notice recipient office).1 report ∧
      Told report office (dispatcher.dispatch notice recipient office).2 := by
  have starts := start_told dispatcher notice office recipient
  unfold dispatch
  rcases started : dispatcher.start notice recipient office with ⟨⟨source, email⟩ | outcome, next⟩
  · rw [started] at starts
    obtain ⟨addressed, slow, accepted, begun⟩ := starts
    have waited := begun.then_nothing next.told_wait
    rw [← addressed, ← Office.refused_same_setup waited.setup] at accepted
    have keeping := (slow.of_setup waited.setup.symm).keeping
    obtain ⟨report, reports, landed⟩ := land_told notice next.wait source email accepted keeping
    rw [addressed] at reports
    exact ⟨report, reports, waited.after_nothing landed⟩
  · rw [started] at starts
    obtain ⟨report, reports, ended, _⟩ := starts
    exact ⟨report, reports, ended⟩

end Dispatcher

end SchoolNotice
