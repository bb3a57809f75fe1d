import SchoolNotice.Delivery.Run
import SchoolNotice.Proofs.Delivery.Books
import SchoolNotice.Proofs.Delivery.Growth
import SchoolNotice.Proofs.Delivery.Parallel

/-!
Tenants are kept apart. Of the templates and the profiles in an office, what is done for a notice depends on
those alone that are its tenant's: two offices that offer the same templates for the notice and know the same
of the tenant answer every command for it alike and add the same to their books.
-/

namespace SchoolNotice

namespace Office

/-- The part of an office that all its tenants share, without the books. -/
def shared (office : Office) : Office :=
  { office with
    templates := [], profiles := [], failing := [], refused := [], sent := [], attempts := 0
    lookups := 0, logs := [], events := [] }

theorem shared_answering (office : Office) (service : Collaborator) :
    (office.answering service).shared = office.shared.answering service :=
  (answering_changed office shared (fun _ => rfl) (fun _ => rfl) service).symm

theorem shared_wait (office : Office) : office.wait.shared = office.shared.wait := by
  unfold wait
  dsimp only [shared]
  split
  · split
    · rfl
    · rfl
  · rfl

/-- Two offices that differ, if at all, in what is other tenants', what is not offered for the notice and what
their books hold. An identifier counts the mails, so both have sent as many. -/
structure SameFor (notice : Notice) (office other : Office) : Prop where
  shared : office.shared = other.shared
  failing : ∀ address, address ∈ office.failing ↔ address ∈ other.failing
  refused : ∀ address, address ∈ office.refused ↔ address ∈ other.refused
  profile : office.profileOf? notice.tenant = other.profileOf? notice.tenant
  templates : office.templates.filter (StoredTemplate.offers notice.tenant notice.kind) =
    other.templates.filter (StoredTemplate.offers notice.tenant notice.kind)
  counted : office.sent.length = other.sent.length

/-- The two offices have become others that are the same for the notice, and their books have got the same,
with log entries of the notice's tenant only. -/
structure GrewAlike (notice : Notice) (office other after beyond : Office) : Prop where
  same : SameFor notice after beyond
  added : ∃ books, after.books = office.books ++ books ∧ beyond.books = other.books ++ books ∧
    ∀ entry ∈ books.entries, entry.tenant = notice.tenant

variable {notice : Notice} {office other after beyond : Office}

theorem grew_alike_refl (same : SameFor notice office other) :
    GrewAlike notice office other office other := by
  constructor
  · exact same
  · refine ⟨.empty, ?_, ?_, ?_⟩
    · rw [Books.append_empty]
    · rw [Books.append_empty]
    · intro entry member
      cases member

namespace GrewAlike

variable (alike : GrewAlike notice office other after beyond)

include alike

/-- The books of both get more, the same in both, while the rest stays the same for the notice. -/
theorem more {later further : Office} (books : Books)
    (added : later.books = after.books ++ books) (gained : further.books = beyond.books ++ books)
    (own : ∀ entry ∈ books.entries, entry.tenant = notice.tenant)
    (setup : later.setup = after.setup) (fixed : further.setup = beyond.setup)
    (shared : later.shared = further.shared) :
    GrewAlike notice office other later further := by
  have same := alike.same
  constructor
  · constructor
    · exact shared
    · have failing : later.failing = after.failing := (congrArg Office.failing setup :)
      have unchanged : further.failing = beyond.failing := (congrArg Office.failing fixed :)
      rw [failing, unchanged]
      exact same.failing
    · have refused : later.refused = after.refused := (congrArg Office.refused setup :)
      have unchanged : further.refused = beyond.refused := (congrArg Office.refused fixed :)
      rw [refused, unchanged]
      exact same.refused
    · have profiles : later.profiles = after.profiles := (congrArg Office.profiles setup :)
      have unchanged : further.profiles = beyond.profiles := (congrArg Office.profiles fixed :)
      unfold profileOf?
      rw [profiles, unchanged]
      exact same.profile
    · have templates : later.templates = after.templates := (congrArg Office.templates setup :)
      have unchanged : further.templates = beyond.templates := (congrArg Office.templates fixed :)
      rw [templates, unchanged]
      exact same.templates
    · have mails : later.sent = after.sent ++ books.mails := congrArg Books.mails added
      have copies : further.sent = beyond.sent ++ books.mails := congrArg Books.mails gained
      rw [mails, copies, List.length_append, List.length_append, same.counted]
  · obtain ⟨earlier, before, previous, tenants⟩ := alike.added
    refine ⟨earlier ++ books, ?_, ?_, ?_⟩
    · rw [added, before, Books.append_assoc]
    · rw [gained, previous, Books.append_assoc]
    · intro entry member
      rcases List.mem_append.mp member with old | new
      · exact tenants entry old
      · exact own entry new

theorem note (event : Event) :
    GrewAlike notice office other (after.note event) (beyond.note event) := by
  apply alike.more (.ofEvent event) (books_note after event) (books_note beyond event)
  · intro entry member
    cases member
  · rfl
  · rfl
  · exact alike.same.shared

theorem asked : GrewAlike notice office other after.asked beyond.asked := by
  apply alike.more .attempt (books_asked after) (books_asked beyond)
  · intro entry member
    cases member
  · rfl
  · rfl
  · exact alike.same.shared

theorem consulted : GrewAlike notice office other after.consulted beyond.consulted := by
  apply alike.more .lookup (books_consulted after) (books_consulted beyond)
  · intro entry member
    cases member
  · rfl
  · rfl
  · exact alike.same.shared

theorem with_mail (email : Email) :
    GrewAlike notice office other (after.withMail email) (beyond.withMail email) := by
  apply alike.more (.ofMail email) (books_with_mail after email) (books_with_mail beyond email)
  · intro entry member
    cases member
  · rfl
  · rfl
  · exact alike.same.shared

theorem with_entry (entry : LogEntry) (own : entry.tenant = notice.tenant) :
    GrewAlike notice office other (after.withEntry entry) (beyond.withEntry entry) := by
  apply alike.more (.ofEntry entry) (books_with_entry after entry) (books_with_entry beyond entry)
  · intro written member
    rw [List.mem_singleton.mp member]
    exact own
  · rfl
  · rfl
  · exact alike.same.shared

theorem answering (service : Collaborator) :
    GrewAlike notice office other (after.answering service) (beyond.answering service) := by
  apply alike.more .empty
  · rw [books_answering, Books.append_empty]
  · rw [books_answering, Books.append_empty]
  · intro entry member
    cases member
  · exact (after.grew_answering service).setup
  · exact (beyond.grew_answering service).setup
  · rw [shared_answering, shared_answering, alike.same.shared]

theorem wait : GrewAlike notice office other after.wait beyond.wait := by
  apply alike.more .empty
  · rw [books_wait, Books.append_empty]
  · rw [books_wait, Books.append_empty]
  · intro entry member
    cases member
  · exact after.grew_wait.setup
  · exact beyond.grew_wait.setup
  · rw [shared_wait, shared_wait, alike.same.shared]

theorem with_alarm (alarm : Option Nat) :
    GrewAlike notice office other (Site.withAlarm alarm after) (Site.withAlarm alarm beyond) := by
  have books : ∀ office : Office, (Site.withAlarm alarm office).books = office.books ++ .empty := by
    intro office
    rw [Books.append_empty]
    rfl
  apply alike.more .empty (books after) (books beyond)
  · intro entry member
    cases member
  · rfl
  · rfl
  · exact congrArg (Site.withAlarm alarm) alike.same.shared

theorem find_profile : Parallel (GrewAlike notice office other)
    (after.findProfile notice.tenant) (beyond.findProfile notice.tenant) := by
  have fails : after.tenantsFail = beyond.tenantsFail :=
    (congrArg Office.tenantsFail alike.same.shared :)
  constructor
  · rw [find_profile_answer, find_profile_answer, fails, alike.same.profile]
  · exact alike.consulted.answering .tenants

theorem find_active : Parallel (GrewAlike notice office other)
    (after.findActive notice.tenant notice.kind) (beyond.findActive notice.tenant notice.kind) := by
  have fails : after.templatesFail = beyond.templatesFail :=
    (congrArg Office.templatesFail alike.same.shared :)
  constructor
  · simp only [findActive, StoredTemplate.activeFor, fails, alike.same.templates]
  · exact alike.answering .templates

theorem collect (email : Email) : Parallel (GrewAlike notice office other)
    (after.collect email) (beyond.collect email) := by
  by_cases fails : email.recipient ∈ after.failing
  · have also := (alike.same.failing email.recipient).mp fails
    rw [collect_failing fails, collect_failing also]
    exact ⟨rfl, alike.answering .sender⟩
  · have also := mt (alike.same.failing email.recipient).mpr fails
    rw [collect_reached fails, collect_reached also, alike.same.counted]
    exact ⟨rfl, (alike.with_mail email).answering .sender⟩

theorem post (email : Email) : Parallel (GrewAlike notice office other)
    (after.post email) (beyond.post email) := by
  have mailer : beyond.mailer = after.mailer := (congrArg Office.mailer alike.same.shared.symm :)
  have delay : beyond.delay = after.delay := (congrArg Office.delay alike.same.shared.symm :)
  by_cases refused : email.recipient ∈ after.refused
  · have also := (alike.same.refused email.recipient).mp refused
    rw [post_refused refused, post_refused also]
    exact ⟨rfl, alike.answering .sender⟩
  · have also := mt (alike.same.refused email.recipient).mpr refused
    cases kind : after.mailer with
    | skipping id =>
        rw [post_skipped refused kind, post_skipped also (mailer.trans kind)]
        exact ⟨rfl, (alike.note _).answering .sender⟩
    | keeping =>
        by_cases instant : after.delay = 0
        · have collected := alike.asked.collect email
          rw [post_instant refused kind instant,
            post_instant also (mailer.trans kind) (delay.trans instant)]
          exact ⟨congrArg some collected.1, collected.2⟩
        · have slow : beyond.delay ≠ 0 := delay ▸ instant
          rw [post_slow refused kind instant, post_slow also (mailer.trans kind) slow]
          exact ⟨rfl, alike.asked⟩

theorem insert_log (entry : LogEntry) (own : entry.tenant = notice.tenant) :
    Parallel (GrewAlike notice office other) (after.insertLog entry) (beyond.insertLog entry) := by
  have same : beyond.logsFail = after.logsFail :=
    (congrArg Office.logsFail alike.same.shared.symm :)
  cases fails : after.logsFail with
  | true =>
      rw [insert_log_failing entry fails, insert_log_failing entry (same.trans fails)]
      exact ⟨rfl, alike.answering .logs⟩
  | false =>
      rw [insert_log_kept entry fails, insert_log_kept entry (same.trans fails)]
      exact ⟨rfl, (alike.with_entry entry own).answering .logs⟩

end GrewAlike

theorem same_answers_alike (notice : Notice) (office other : Office) :
    AnswersAlike notice (GrewAlike notice office other) where
  note event _ _ alike := alike.note event
  findProfile alike := alike.find_profile
  findActive alike := alike.find_active
  cancelled alike := (congrArg Office.cancelled alike.same.shared :)
  now alike := (congrArg Office.clock alike.same.shared :)
  post email _ _ alike := alike.post email
  collect email _ _ alike := alike.collect email
  wait alike := alike.wait
  insertLog entry own _ _ alike := alike.insert_log entry own

end Office

inductive Command.Serves (notice : Notice) : Command → Prop where
  | preview (context : Context) : Serves notice (.preview notice context)
  | dispatch (recipient : Recipient) (alarm : Option Nat) :
      Serves notice (.dispatch notice recipient alarm)
  | batch (recipients : List Recipient) (alarm : Option Nat) :
      Serves notice (.batch notice recipients alarm)

namespace Command

def contexts : Command → List Context
  | .preview _ context => [context]
  | .dispatch _ recipient _ => [recipient.context]
  | .batch _ recipients _ => recipients.map Recipient.context
  | _ => []

end Command

namespace Site

def answers (site : Site) : List Command → List Answer
  | [] => []
  | command :: rest => (site.perform command).1 :: (site.perform command).2.answers rest

variable {notice : Notice} {office other after beyond : Office}

/-- Two offices in which a notice is shown and delivered alike answer a command for it alike. -/
theorem perform_among {among : Context → Prop} {alike : Office → Office → Prop}
    (delivers : DeliversAlike notice among alike)
    (alarmed : ∀ alarm {office other : Office}, alike office other →
      alike (withAlarm alarm office) (withAlarm alarm other))
    (dispatcher : Dispatcher) {command : Command} (serves : command.Serves notice)
    (within : ∀ context ∈ command.contexts, among context) (near : alike after beyond) :
    ∃ answer later further,
      (Site.mk dispatcher after).perform command = (answer, ⟨dispatcher, later⟩) ∧
        (Site.mk dispatcher beyond).perform command = (answer, ⟨dispatcher, further⟩) ∧
          alike later further := by
  cases serves with
  | preview context =>
      have shown := Dispatcher.preview_among dispatcher near delivers.toReadsAlike
        (within context List.mem_cons_self)
      obtain ⟨rendered, later, further, found, also, still⟩ := shown.parts
      simp only [perform, found, also]
      exact ⟨_, _, _, rfl, rfl, still⟩
  | dispatch recipient alarm =>
      have delivered := Dispatcher.dispatch_among delivers dispatcher
        (within recipient.context List.mem_cons_self) (alarmed alarm near)
      obtain ⟨outcome, later, further, found, also, still⟩ := delivered.parts
      simp only [perform, found, also]
      exact ⟨_, _, _, rfl, rfl, alarmed none still⟩
  | batch recipients alarm =>
      have delivered := Dispatcher.batch_among delivers dispatcher
        (fun _ member => within _ (List.mem_map_of_mem member)) (alarmed alarm near)
      obtain ⟨outcomes, later, further, found, also, still⟩ := delivered.parts
      simp only [perform, found, also]
      exact ⟨_, _, _, rfl, rfl, alarmed none still⟩

theorem perform_alike (dispatcher : Dispatcher) {command : Command} (serves : command.Serves notice)
    (alike : office.GrewAlike notice other after beyond) :
    ∃ answer later further,
      (Site.mk dispatcher after).perform command = (answer, ⟨dispatcher, later⟩) ∧
        (Site.mk dispatcher beyond).perform command = (answer, ⟨dispatcher, further⟩) ∧
          office.GrewAlike notice other later further := by
  have answers := Office.same_answers_alike notice office other
  exact perform_among (Dispatcher.goes_delivers answers.goes) (fun alarm _ _ => (·.with_alarm alarm))
    dispatcher serves (fun _ _ => trivial) alike

theorem run_alike (dispatcher : Dispatcher) (commands : List Command)
    (serve : ∀ command ∈ commands, command.Serves notice)
    (alike : office.GrewAlike notice other after beyond) :
    (Site.mk dispatcher after).answers commands = (Site.mk dispatcher beyond).answers commands ∧
      office.GrewAlike notice other ((Site.mk dispatcher after).run commands).office
        ((Site.mk dispatcher beyond).run commands).office := by
  induction commands generalizing after beyond with
  | nil => exact ⟨rfl, alike⟩
  | cons command rest induction =>
      have serves := serve command List.mem_cons_self
      obtain ⟨answer, later, further, done, also, grew⟩ := perform_alike dispatcher serves alike
      have others : ∀ later ∈ rest, later.Serves notice := by
        intro later member
        exact serve later (List.mem_cons_of_mem command member)
      have carried := induction others grew
      simp only [answers, run, List.foldl_cons, done, also]
      exact ⟨congrArg (answer :: ·) carried.1, carried.2⟩

/-- Whatever is shown or delivered of a notice, two offices that are the same for it answer alike, and their
books get the same mails, log entries, counts and events; the entries are the tenant's. -/
theorem tenants_kept_apart (dispatcher : Dispatcher) (notice : Notice) (office other : Office)
    (same : office.SameFor notice other) (commands : List Command)
    (serve : ∀ command ∈ commands, command.Serves notice) :
    let site := Site.mk dispatcher office
    let fellow := Site.mk dispatcher other
    site.answers commands = fellow.answers commands ∧
      ∃ books, (site.run commands).office.books = office.books ++ books ∧
        (fellow.run commands).office.books = other.books ++ books ∧
          ∀ entry ∈ books.entries, entry.tenant = notice.tenant := by
  intro site fellow
  have ran := run_alike dispatcher commands serve (Office.grew_alike_refl same)
  exact ⟨ran.1, ran.2.added⟩

theorem tenants_kept_apart_crowded :
    let notice := Notice.mk (Uuid.ofNat 7) .announcement
    let own : StoredTemplate :=
      { id := Uuid.ofNat 1, tenant := notice.tenant, kind := notice.kind
        subject := "From {{school.name}}", body := "", theme := .classic, active := true
        isDefault := false, version := Version.initial, updatedAt := ⟨3, 0⟩ }
    let foreign := { own with tenant := Uuid.ofNat 9, isDefault := true, subject := "Foreign" }
    let retired := { own with active := false, isDefault := true, subject := "Retired" }
    let exam := { own with kind := .examResult, isDefault := true, subject := "Exam" }
    let north := Profile.ofName ⟨"North", by decide, by decide⟩
    let south := Profile.ofName ⟨"South", by decide, by decide⟩
    let office := { Office.empty with
      templates := [own], profiles := [(Uuid.ofNat 7, north)], failing := ["b@school.example"] }
    let other := { office with
      templates := [foreign, retired, own, exam]
      profiles := [(Uuid.ofNat 9, south), (Uuid.ofNat 7, north)] }
    let first := Recipient.mk "a@school.example" Context.empty
    let second := Recipient.mk "b@school.example" Context.empty
    let commands := [.preview notice Context.empty, .dispatch notice first none,
      .batch notice [second, first] (some 4)]
    let site := Site.mk Dispatcher.standard office
    let fellow := Site.mk Dispatcher.standard other
    office.SameFor notice other ∧ (∀ command ∈ commands, command.Serves notice) ∧
      site.answers commands = fellow.answers commands ∧
        (fellow.run commands).office.sent.map Email.subject = ["From North", "From North"] ∧
          (fellow.run commands).office.logs.length = 3 := by
  intro notice own foreign retired exam north south office other first second commands site fellow
  have same : office.SameFor notice other := by
    constructor
    case shared => rfl
    case failing => exact fun address => Iff.rfl
    case refused => exact fun address => Iff.rfl
    case profile => decide
    case templates => decide
    case counted => rfl
  have serve : ∀ command ∈ commands, command.Serves notice := by
    simp only [commands, List.forall_mem_cons]
    exact ⟨.preview _, .dispatch _ _, .batch _ _, List.forall_mem_nil _⟩
  refine ⟨same, serve, ?_, ?_⟩
  · exact (tenants_kept_apart Dispatcher.standard notice office other same commands serve).1
  · decide +kernel

end Site

end SchoolNotice
