import Mathlib.Algebra.GroupWithZero.Nat
import SchoolNotice.Proofs.Delivery.Growth
import SchoolNotice.Proofs.Delivery.Ledger
import SchoolNotice.Proofs.Delivery.Watch

/-!
The accounts of deliveries. Where no delivery is disturbed while its mail is under way, every mail that is
handed over is logged, so attempts, mails and log entries stay in balance.
-/

namespace SchoolNotice

structure Office.Keeps (office : Office) : Prop where
  keeping : office.mailer = .keeping
  accepting : office.refused = []
  writing : office.logsFail = false

theorem Office.Keeps.of_setup {office other : Office} (keeps : office.Keeps)
    (same : other.setup = office.setup) : other.Keeps :=
  { keeping := (congrArg Office.mailer same :).trans keeps.keeping
    accepting := (congrArg Office.refused same :).trans keeps.accepting
    writing := (congrArg Office.logsFail same :).trans keeps.writing }

theorem Office.keeps_outlasts : Outlasts Office.Keeps :=
  { note := fun event office keeps => keeps.of_setup (office.grew_note event).setup
    findProfile := fun tenant office keeps => keeps.of_setup (office.grew_find_profile tenant).setup
    findActive := fun tenant kind office keeps =>
      keeps.of_setup (office.grew_find_active tenant kind).setup
    post := fun email office keeps => by
      rcases office.post_replied email with ⟨_, _, grew⟩ | ⟨_, _, _, grew, _⟩
      · exact keeps.of_setup grew.setup
      · exact keeps.of_setup grew.setup
    collect := fun email office keeps => by
      obtain ⟨_, _, grew⟩ := office.collect_replied email
      exact keeps.of_setup grew.setup
    insertLog := fun entry office keeps => by
      rcases office.insert_log_grew entry with ⟨_, grew⟩ | ⟨_, grew⟩
      · exact keeps.of_setup grew.setup
      · exact keeps.of_setup grew.setup
    wait := fun {office} keeps => keeps.of_setup office.grew_wait.setup }

/-- The setup, the attempts, the mails and the log entries of an office are those of another. -/
structure Office.Idle (before after : Office) : Prop where
  setup : after.setup = before.setup
  attempts : after.attempts = before.attempts
  sent : after.sent = before.sent
  logs : after.logs = before.logs

namespace Office

theorem idle_answering (office : Office) (service : Collaborator) :
    office.Idle (office.answering service) := by
  unfold answering
  split
  · exact ⟨rfl, rfl, rfl, rfl⟩
  · exact ⟨rfl, rfl, rfl, rfl⟩

theorem idle_find_profile (office : Office) (tenant : Uuid) :
    office.Idle (office.findProfile tenant).2 := by
  have answered := office.consulted.idle_answering .tenants
  exact ⟨answered.setup, answered.attempts, answered.sent, answered.logs⟩

theorem idle_wait (office : Office) : office.Idle office.wait := by
  have quiet := office.grew_wait
  have attempts : office.wait.attempts = office.attempts :=
    (congrArg Books.attempts office.books_wait :)
  exact ⟨quiet.setup, attempts, quiet.sent.trans (List.append_nil _),
    quiet.logs.trans (List.append_nil _)⟩

structure AtRest (office : Office) : Prop where
  attempts : office.attempts = office.logs.length
  ledger : Ledger office.sent office.logs

theorem AtRest.idle {office other : Office} (rest : office.AtRest) (idle : office.Idle other) :
    other.AtRest := by
  constructor
  · rw [idle.attempts, idle.logs]
    exact rest.attempts
  · rw [idle.sent, idle.logs]
    exact rest.ledger

theorem rest_outlasts_lookups : OutlastsLookups AtRest :=
  { note := fun _ _ rest => ⟨rest.attempts, rest.ledger⟩
    findProfile := fun tenant office rest => rest.idle (office.idle_find_profile tenant)
    findActive := fun _ _ office rest => rest.idle (office.idle_answering .templates) }

end Office

namespace Watch

structure Balanced (count : Nat) (watch : Watch) : Prop where
  keeps : watch.office.Keeps
  underway : watch.underway = count
  going : count ≠ 0 → watch.office.cancelled = false
  attempts : watch.office.attempts = watch.office.logs.length + count
  ledger : Ledger watch.office.sent watch.office.logs

def InOrder (count : Nat) (watch : Watch) : Prop :=
  watch.disturbed = true ∨ watch.Balanced count

variable {count : Nat} {watch : Watch}

theorem became_in_order (inOrder : watch.InOrder count) {office : Office}
    (idle : watch.office.Idle office) : (watch.became office).InOrder count := by
  rcases inOrder with disturbed | balanced
  · left
    exact became_disturbed disturbed office
  · by_cases cancelled : count ≠ 0 ∧ office.cancelled = true
    · left
      have flying : (watch.underway != 0) = true := by
        rw [balanced.underway]
        exact bne_iff_ne.mpr cancelled.1
      rw [became, balanced.going cancelled.1, flying, cancelled.2]
      exact Bool.or_true _
    · right
      have rest : office.attempts = office.logs.length + count := by
        rw [idle.attempts, idle.logs, balanced.attempts]
      have ledger : Ledger office.sent office.logs := by
        rw [idle.sent, idle.logs]
        exact balanced.ledger
      have going : count ≠ 0 → office.cancelled = false := fun flying =>
        Bool.eq_false_iff.mpr fun stopped => cancelled ⟨flying, stopped⟩
      exact ⟨balanced.keeps.of_setup idle.setup, balanced.underway, going, rest, ledger⟩

theorem note_in_order (inOrder : watch.InOrder count) (event : Event) :
    InOrder count (Services.note event watch) := by
  rcases inOrder with disturbed | balanced
  · left
    exact disturbed
  · right
    exact ⟨balanced.keeps.of_setup rfl, balanced.underway, balanced.going, balanced.attempts,
      balanced.ledger⟩

theorem in_order_outlasts_lookups : OutlastsLookups (InOrder count) :=
  { note := fun event _ inOrder => note_in_order inOrder event
    findProfile := fun tenant watch inOrder =>
      became_in_order inOrder (watch.office.idle_find_profile tenant)
    findActive := fun _ _ watch inOrder =>
      became_in_order inOrder (watch.office.idle_answering .templates) }

def handed (watch : Watch) : Watch :=
  { watch with office := watch.office.asked, underway := watch.underway + 1 }

theorem handed_in_order (inOrder : watch.InOrder count) (going : watch.office.cancelled = false) :
    watch.handed.InOrder (count + 1) := by
  rcases inOrder with disturbed | balanced
  · left
    exact disturbed
  · right
    constructor
    · exact balanced.keeps.of_setup rfl
    · exact congrArg (· + 1) balanced.underway
    · exact fun _ => going
    · exact congrArg (· + 1) balanced.attempts
    · exact balanced.ledger

theorem post_keeping (keeps : watch.office.Keeps) (email : Email) :
    watch.post email =
      if watch.office.delay = 0 then
        (some (watch.handed.collect email).1, (watch.handed.collect email).2)
      else (none, watch.handed) := by
  have accepted : email.recipient ∉ watch.office.refused := by
    rw [keeps.accepting]
    exact List.not_mem_nil
  by_cases instant : watch.office.delay = 0
  · rw [if_pos instant, post, Office.post_instant accepted keeps.keeping instant]
    rfl
  · rw [if_neg instant, post, Office.post_slow accepted keeps.keeping instant]
    simp [became, handed, Office.asked]

/-- A reply that is logged leaves the mails and the log entries in balance. -/
theorem collect_ledger {office : Office} (ledger : Ledger office.sent office.logs) {email : Email}
    (oneLine : OneLine email.subject) :
    let collected := office.collect email
    collected.2.setup = office.setup ∧ collected.2.attempts = office.attempts ∧
      collected.2.logs = office.logs ∧ ∀ notice source sentAt, Ledger collected.2.sent
        (collected.2.logs ++ [Dispatcher.entryOf notice source email collected.1 sentAt]) := by
  dsimp only
  by_cases fails : email.recipient ∈ office.failing
  · rw [Office.collect_failing fails]
    have idle := office.idle_answering .sender
    refine ⟨idle.setup, idle.attempts, idle.logs, ?_⟩
    intro notice source sentAt
    rw [idle.sent, idle.logs]
    exact ledger.failed oneLine ⟨rfl, rfl, _, rfl⟩
  · rw [Office.collect_reached fails]
    have idle := (office.withMail email).idle_answering .sender
    refine ⟨idle.setup, idle.attempts, idle.logs, ?_⟩
    intro notice source sentAt
    rw [idle.sent, idle.logs]
    exact ledger.sent oneLine ⟨rfl, rfl, rfl, rfl, rfl⟩

theorem conclude_in_order (keeps : watch.office.Keeps) (underway : watch.underway = count)
    (going : watch.office.cancelled = false)
    (attempts : watch.office.attempts = watch.office.logs.length + (count + 1)) {notice : Notice}
    {source : Source} {email : Email} {reply : Reply}
    (ledger : Ledger watch.office.sent (watch.office.logs ++
      [Dispatcher.entryOf notice source email reply watch.office.clock])) :
    InOrder count (Dispatcher.conclude notice source email reply watch).2 := by
  let noted := watch.office.note (Dispatcher.answered notice source email reply)
  let entry := Dispatcher.entryOf notice source email reply watch.office.clock
  let logged : Watch := { watch with office := noted.withEntry entry }
  have balanced : logged.Balanced count := by
    constructor
    · exact keeps.of_setup rfl
    · exact underway
    · exact fun _ => going
    · change watch.office.attempts = (watch.office.logs ++ [entry]).length + count
      rw [attempts, List.length_append, List.length_singleton, Nat.add_assoc, Nat.add_comm 1]
    · exact ledger
  have written : noted.insertLog entry = (.ok (), (noted.withEntry entry).answering .logs) :=
    Office.insert_log_kept entry keeps.writing
  have concluded : (Dispatcher.conclude notice source email reply watch).2 =
      logged.became (logged.office.answering .logs) := by
    have open_log : ¬Services.cancelled { watch with office := noted } = true :=
      Bool.eq_false_iff.mp going
    rw [show (Dispatcher.conclude notice source email reply watch).2 =
      Dispatcher.record entry { watch with office := noted } from rfl, Dispatcher.record,
      if_neg open_log]
    simp only [Services.insertLog, written]
    rfl
  rw [concluded]
  exact became_in_order (.inr balanced) (logged.office.idle_answering .logs)

theorem collect_in_order (inOrder : watch.InOrder (count + 1)) {email : Email}
    (oneLine : OneLine email.subject) (notice : Notice) (source : Source) :
    let collected := watch.collect email
    InOrder count (Dispatcher.conclude notice source email collected.1 collected.2).2 := by
  intro collected
  have disturbed_stays : collected.2.disturbed = true →
      InOrder count (Dispatcher.conclude notice source email collected.1 collected.2).2 :=
    fun disturbed =>
      .inl (Dispatcher.conclude_keeps disturbed_outlasts notice disturbed source email _)
  rcases inOrder with disturbed | balanced
  · exact disturbed_stays (disturbed_outlasts.collect email disturbed)
  · have going := balanced.going (Nat.succ_ne_zero count)
    cases stopped : (watch.office.collect email).2.cancelled with
    | true =>
        apply disturbed_stays
        change (watch.became (watch.office.collect email).2).disturbed = true
        rw [became, balanced.underway, going, stopped]
        exact Bool.or_true _
    | false =>
        obtain ⟨setup, attempts, logs, ledger⟩ := collect_ledger balanced.ledger oneLine
        apply conclude_in_order
        · exact balanced.keeps.of_setup setup
        · exact congrArg (· - 1) balanced.underway
        · exact stopped
        · change (watch.office.collect email).2.attempts = _
          rw [attempts, balanced.attempts, ← logs]
          rfl
        · exact ledger notice source _

theorem post_in_order (inOrder : watch.InOrder count) (going : watch.office.cancelled = false)
    {email : Email} (oneLine : OneLine email.subject) {answer : Option Reply} {next : Watch}
    (posted : watch.post email = (answer, next)) :
    match answer with
    | none => next.InOrder (count + 1)
    | some reply => ∀ notice source,
        InOrder count (Dispatcher.conclude notice source email reply next).2 := by
  have handed := handed_in_order inOrder going
  rcases inOrder with disturbed | balanced
  · have still := post_disturbed disturbed email
    rw [posted] at still
    cases answer with
    | none => exact .inl still
    | some reply =>
        intro notice source
        exact .inl (Dispatcher.conclude_keeps disturbed_outlasts notice still source email reply)
  · rw [post_keeping balanced.keeps] at posted
    by_cases instant : watch.office.delay = 0
    · rw [if_pos instant] at posted
      cases posted
      exact collect_in_order handed oneLine
    · rw [if_neg instant] at posted
      cases posted
      exact handed

end Watch

def Standing.load : Standing → Nat
  | .waiting .. => 1
  | .settled _ => 0

def Standing.Tidy : Standing → Prop
  | .waiting _ email => OneLine email.subject
  | .settled _ => True

namespace Dispatcher

open Watch

variable (dispatcher : Dispatcher) (notice : Notice)

section Subjects

variable {σ : Type} [Services σ] {heed : Bool} {context : Context} {state : σ} {source : Source}
  {rendered : Rendered}

theorem composed_one_line
    (composed : (dispatcher.compose heed notice context state).1 = .ok (source, rendered)) :
    OneLine rendered.subject := by
  unfold compose at composed
  split at composed
  · cases composed
  · rcases selected : dispatcher.select notice state with ⟨error | template, next⟩
    · rw [selected] at composed
      cases composed
    · rw [selected] at composed
      cases composed
      exact Rendered.one_line_subject ..

theorem prepared_one_line {next : σ} {address : String} {sender : Option String} {email : Email}
    (prepared : dispatcher.prepare heed notice context state = (.ok (source, rendered), next))
    (addressed : rendered.toEmail address sender = email) : OneLine email.subject := by
  subst addressed
  unfold prepare at prepared
  rcases enriched : enrich heed notice.tenant context state with ⟨error | completed, middle⟩
  · rw [enriched] at prepared
    cases prepared
  · rw [enriched] at prepared
    exact composed_one_line dispatcher notice (congrArg Prod.fst prepared)

end Subjects

theorem start_tidy {σ : Type} [Services σ] (recipient : Recipient) (state : σ) :
    (dispatcher.start notice recipient state).1.Tidy := by
  have begins := start_cases dispatcher notice recipient state
  generalize dispatcher.start notice recipient state = started at begins ⊢
  cases begins with
  | underway prepared going addressed posted =>
      exact prepared_one_line dispatcher notice prepared addressed
  | _ => trivial

variable {count : Nat} {watch : Watch}

theorem start_in_order (inOrder : watch.InOrder count) (recipient : Recipient) :
    let started := dispatcher.start notice recipient watch
    started.2.InOrder (count + started.1.load) := by
  have ready := prepare_keeps in_order_outlasts_lookups dispatcher true notice recipient.context
    inOrder
  have begins := start_cases dispatcher notice recipient watch
  dsimp only
  generalize dispatcher.start notice recipient watch = started at begins ⊢
  cases begins with
  | failed prepared =>
      rw [prepared] at ready
      exact note_in_order ready _
  | stopped prepared cancelled =>
      rw [prepared] at ready
      exact note_in_order ready _
  | underway prepared going addressed posted =>
      have oneLine := prepared_one_line dispatcher notice prepared addressed
      rw [prepared] at ready
      exact post_in_order ready going oneLine posted
  | answered prepared going addressed posted =>
      have oneLine := prepared_one_line dispatcher notice prepared addressed
      rw [prepared] at ready
      exact post_in_order ready going oneLine posted notice _

theorem land_in_order {standing : Standing} (tidy : standing.Tidy)
    (inOrder : watch.InOrder (count + standing.load)) :
    (land notice standing watch).2.InOrder count := by
  cases standing with
  | settled outcome => exact inOrder
  | waiting source email =>
      unfold land
      by_cases stopped : Services.cancelled watch
      · simp only [if_pos stopped]
        rcases inOrder with disturbed | balanced
        · exact note_in_order (.inl disturbed) _
        · cases (balanced.going (Nat.succ_ne_zero count)).symm.trans stopped
      · simp only [if_neg stopped]
        exact collect_in_order inOrder tidy notice source

theorem dispatch_in_order (inOrder : watch.InOrder count) (recipient : Recipient) :
    (dispatcher.dispatch notice recipient watch).2.InOrder count := by
  have begun := start_in_order dispatcher notice inOrder recipient
  have tidy := start_tidy dispatcher notice recipient watch
  unfold dispatch
  rcases started : dispatcher.start notice recipient watch with ⟨⟨source, email⟩ | outcome, next⟩
  · rw [started] at begun tidy
    exact land_in_order notice tidy (became_in_order begun next.office.idle_wait)
  · rw [started] at begun
    exact begun

end Dispatcher

def Seat.load : Seat → Nat
  | .fresh _ => 0
  | .begun standing => standing.load

def Seat.Tidy : Seat → Prop
  | .fresh _ => True
  | .begun standing => standing.Tidy

/-- How many mails are under way in a buffer. -/
def loadOf (seats : List Seat) : Nat := (seats.map Seat.load).sum

theorem load_of_cons (seat : Seat) (seats : List Seat) :
    loadOf (seat :: seats) = seat.load + loadOf seats := by
  rw [loadOf, List.map_cons, List.sum_cons, loadOf]

theorem load_of_fresh (recipients : List Recipient) : loadOf (recipients.map .fresh) = 0 := by
  induction recipients with
  | nil => rfl
  | cons recipient rest induction =>
      rw [List.map_cons, load_of_cons, induction]
      rfl

theorem load_of_fill (room : Nat) (buffer : Buffer) :
    loadOf (buffer.fill room).seats = loadOf buffer.seats := by
  have none_begun := load_of_fresh (buffer.rest.take (room - buffer.seats.length))
  unfold loadOf at none_begun ⊢
  rw [Buffer.fill, List.map_append, List.sum_append, none_begun, Nat.add_zero]

theorem fill_tidy (room : Nat) {buffer : Buffer} (tidy : ∀ seat ∈ buffer.seats, seat.Tidy) :
    ∀ seat ∈ (buffer.fill room).seats, seat.Tidy := by
  simp only [Buffer.fill, List.forall_mem_append]
  refine ⟨tidy, ?_⟩
  intro seat member
  obtain ⟨recipient, _, rfl⟩ := List.mem_map.mp member
  trivial

namespace Dispatcher

open Watch

variable (dispatcher : Dispatcher) (notice : Notice) {count : Nat} {watch : Watch}

theorem begin_all_in_order {seats : List Seat} (tidy : ∀ seat ∈ seats, seat.Tidy)
    (inOrder : watch.InOrder (count + loadOf seats)) :
    let begun := dispatcher.beginAll notice seats watch
    begun.2.InOrder (count + loadOf begun.1) ∧ ∀ seat ∈ begun.1, seat.Tidy := by
  induction seats generalizing count watch with
  | nil => exact ⟨inOrder, tidy⟩
  | cons seat rest induction =>
      rw [List.forall_mem_cons] at tidy
      cases seat with
      | begun standing =>
          rw [load_of_cons, ← Nat.add_assoc] at inOrder
          obtain ⟨ordered, tidied⟩ := induction tidy.2 inOrder
          simp only [beginAll, load_of_cons, List.forall_mem_cons]
          rw [← Nat.add_assoc]
          exact ⟨ordered, tidy.1, tidied⟩
      | fresh recipient =>
          have fresh : watch.InOrder (count + loadOf rest) := by
            rw [load_of_cons, Seat.load, Nat.zero_add] at inOrder
            exact inOrder
          have begun := start_in_order dispatcher notice fresh recipient
          have tidied := start_tidy dispatcher notice recipient watch
          dsimp only at begun
          rw [Nat.add_right_comm] at begun
          obtain ⟨ordered, others⟩ := induction tidy.2 begun
          simp only [beginAll, load_of_cons, List.forall_mem_cons]
          rw [← Nat.add_assoc]
          exact ⟨ordered, tidied, others⟩

theorem pass_front_in_order {front : Seat} {behind : List Seat} (tidy : front.Tidy)
    (others : ∀ seat ∈ behind, seat.Tidy) (inOrder : watch.InOrder (loadOf (front :: behind))) :
    let passed := dispatcher.passFront notice front behind watch
    passed.2.2.InOrder (loadOf passed.2.1) ∧ ∀ seat ∈ passed.2.1, seat.Tidy := by
  rw [load_of_cons, Nat.add_comm] at inOrder
  cases front with
  | begun standing => exact ⟨land_in_order notice tidy inOrder, others⟩
  | fresh recipient =>
      have begun := start_in_order dispatcher notice inOrder recipient
      have tidied := start_tidy dispatcher notice recipient watch
      simp only [passFront]
      rcases started : dispatcher.start notice recipient watch with
        ⟨⟨source, email⟩ | outcome, next⟩
      · rw [started] at begun tidied
        have waiting : next.InOrder (1 + loadOf behind) := by
          rw [Nat.add_comm]
          exact begun
        obtain ⟨ordered, all_tidy⟩ := begin_all_in_order dispatcher notice others waiting
        rw [Nat.add_comm] at ordered
        have waited := became_in_order ordered (Office.idle_wait _)
        exact ⟨land_in_order notice tidied waited, all_tidy⟩
      · rw [started] at begun
        exact ⟨begun, others⟩

theorem drain_in_order {buffer : Buffer} (tidy : ∀ seat ∈ buffer.seats, seat.Tidy)
    (inOrder : watch.InOrder (loadOf buffer.seats)) :
    (dispatcher.drain notice buffer watch).2.InOrder 0 := by
  induction buffer, watch using @drain_induction Watch _ dispatcher notice with
  | empty watch filled =>
      rw [← load_of_fill dispatcher.room, filled] at inOrder
      rw [drain_empty filled]
      exact inOrder
  | front watch filled induction =>
      have tidied := fill_tidy dispatcher.room tidy
      rw [filled, List.forall_mem_cons] at tidied
      rw [← load_of_fill dispatcher.room, filled] at inOrder
      obtain ⟨ordered, tidy_behind⟩ :=
        pass_front_in_order dispatcher notice tidied.1 tidied.2 inOrder
      rw [drain_front filled]
      exact induction tidy_behind ordered

theorem batch_in_order (inOrder : watch.InOrder 0) (recipients : List Recipient) :
    (dispatcher.batch notice recipients watch).2.InOrder 0 := by
  have none_seated : ∀ seat ∈ (Buffer.mk [] recipients).seats, seat.Tidy := nofun
  exact note_in_order (drain_in_order dispatcher notice none_seated inOrder) _

end Dispatcher

end SchoolNotice
