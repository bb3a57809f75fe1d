import SchoolNotice.Delivery.Batch
import SchoolNotice.Proofs.Delivery.Advance

/-!
Batches where mails take no time. Every delivery then ends before the next one begins, so a batch does what
deliveries do one after another, however many seats its buffer has.
-/

namespace SchoolNotice

namespace Dispatcher

variable (dispatcher : Dispatcher) (notice : Notice) (office : Office)

theorem prepare_setup (context : Context) :
    (dispatcher.prepare true notice context office).2.setup = office.setup := by
  have enriched := (grew_enrich context office notice.tenant).setup
  unfold prepare
  rcases enrich_heeding context office notice.tenant with ⟨_, stopped⟩ | same
  · rw [stopped]
  · rw [same]
    rcases found : enrich false notice.tenant context office with ⟨error | completed, next⟩
    · rwa [found] at enriched
    · rw [found] at enriched
      refine Eq.trans ?_ enriched
      dsimp only
      rcases compose_heeding dispatcher notice completed next with ⟨_, stopped⟩ | same
      · rw [stopped]
      · rw [same]
        exact (grew_compose dispatcher notice completed next).setup

theorem conclude_setup (source : Source) (email : Email) (reply : Reply) :
    (conclude notice source email reply office).2.setup = office.setup := by
  have noted := (office.grew_note (answered notice source email reply)).setup
  rcases record_grew (office.note (answered notice source email reply))
    (entryOf notice source email reply office.clock) with grew | quiet
  · exact grew.setup.trans noted
  · exact quiet.setup.trans noted

theorem post_answers (email : Email) (instant : office.delay = 0) : ∃ reply next,
    office.post email = (some reply, next) ∧ next.setup = office.setup := by
  have posted := office.post_replied email
  rcases found : office.post email with ⟨answer, next⟩
  rw [found] at posted
  rcases posted with ⟨_, slow, _⟩ | ⟨reply, mails, answers, grew, _⟩
  · exact absurd instant slow
  · dsimp only at answers
    subst answers
    exact ⟨reply, next, rfl, grew.setup⟩

theorem start_settles (recipient : Recipient) (instant : office.delay = 0) : ∃ outcome next,
    dispatcher.start notice recipient office = (.settled outcome, next) ∧
      next.setup = office.setup := by
  have prepared := prepare_setup dispatcher notice office recipient.context
  unfold start
  rcases found : dispatcher.prepare true notice recipient.context office with
    ⟨error | ⟨source, rendered⟩, next⟩
  · rw [found] at prepared
    exact ⟨_, _, rfl, (next.grew_note _).setup.trans prepared⟩
  · rw [found] at prepared
    dsimp only at prepared ⊢
    split
    · exact ⟨_, _, rfl, (next.grew_note _).setup.trans prepared⟩
    · have still : next.delay = 0 := (congrArg Office.delay prepared).trans instant
      obtain ⟨reply, last, answers, same⟩ :=
        post_answers next (rendered.toEmail recipient.address dispatcher.sender) still
      simp only [Services.post, answers]
      refine ⟨_, _, rfl, ?_⟩
      exact (conclude_setup notice last source _ reply).trans (same.trans prepared)

theorem fill_fresh (room : Nat) (taken rest : List Recipient) :
    (Buffer.mk (taken.map .fresh) rest).fill room =
      ⟨(taken ++ rest.take (room - taken.length)).map .fresh,
        rest.drop (room - taken.length)⟩ := by
  simp only [Buffer.fill, List.length_map, List.map_append]

theorem fill_front {room : Nat} (seat : 1 ≤ room) {recipient : Recipient}
    {taken rest recipients : List Recipient} (parted : taken ++ rest = recipient :: recipients) :
    ∃ behind later,
      (Buffer.mk (taken.map .fresh) rest).fill room =
          ⟨.fresh recipient :: behind.map .fresh, later⟩ ∧
        behind ++ later = recipients := by
  rw [fill_fresh]
  cases taken with
  | nil =>
      rw [List.nil_append] at parted
      subst parted
      refine ⟨recipients.take (room - 1), recipients.drop (room - 1), ?_, List.take_append_drop ..⟩
      obtain ⟨seats, rfl⟩ := Nat.exists_eq_add_of_le' seat
      rfl
  | cons first others =>
      rw [List.cons_append] at parted
      obtain ⟨rfl, rfl⟩ := List.cons.inj parted
      refine ⟨others ++ rest.take (room - (first :: others).length), _, rfl, ?_⟩
      rw [List.append_assoc, List.take_append_drop]

section Few

variable {σ : Type} [Services σ] (state : σ)

theorem drain_nothing : dispatcher.drain notice ⟨[], []⟩ state = ([], state) := by
  have none_left := fill_fresh dispatcher.room [] []
  rw [List.take_nil, List.drop_nil] at none_left
  exact drain_empty none_left notice state

/-- A batch to one recipient is a delivery. -/
theorem drain_one (recipient : Recipient) :
    dispatcher.drain notice ⟨[], [recipient]⟩ state =
      ([(dispatcher.dispatch notice recipient state).1],
        (dispatcher.dispatch notice recipient state).2) := by
  have seat : 1 ≤ dispatcher.room := Nat.le_max_right dispatcher.concurrency 1
  obtain ⟨behind, later, filled, others⟩ := @fill_front _ seat recipient [] [recipient] [] rfl
  obtain ⟨rfl, rfl⟩ := List.append_eq_nil_iff.mp others
  have passed : dispatcher.passFront notice (.fresh recipient) [] state =
      ((dispatcher.dispatch notice recipient state).1, [],
        (dispatcher.dispatch notice recipient state).2) := by
    simp only [passFront, dispatch]
    rcases dispatcher.start notice recipient state with ⟨⟨source, email⟩ | outcome, next⟩
    · rfl
    · rfl
  rw [List.map_nil] at filled
  simp only [drain_front filled, passed, drain_nothing]

end Few

/-- If every delivery settles before the next one begins, the buffer passes on the same, however many of the
recipients it has taken. -/
theorem drain_settling {σ : Type} [Services σ] (steady : σ → Prop)
    (settles : ∀ recipient state, steady state → ∃ outcome next,
      dispatcher.start notice recipient state = (.settled outcome, next) ∧ steady next)
    (recipients taken rest : List Recipient) (parted : taken ++ rest = recipients) {state : σ}
    (holds : steady state) :
    dispatcher.drain notice ⟨taken.map .fresh, rest⟩ state =
      dispatcher.dispatchAll notice recipients state := by
  induction recipients generalizing taken rest state with
  | nil =>
      obtain ⟨rfl, rfl⟩ := List.append_eq_nil_iff.mp parted
      exact drain_nothing dispatcher notice state
  | cons recipient recipients induction =>
      obtain ⟨outcome, next, settled, still⟩ := settles recipient state holds
      -- The front of the filled buffer is the first recipient, who settles before any other begins.
      have seat : 1 ≤ dispatcher.room := Nat.le_max_right dispatcher.concurrency 1
      obtain ⟨behind, later, filled, others⟩ := fill_front seat parted
      rw [drain_front filled, dispatchAll]
      simp only [passFront, dispatch, settled]
      rw [induction behind later others still]

theorem drain_fresh (recipients taken rest : List Recipient) (parted : taken ++ rest = recipients)
    (instant : office.delay = 0) :
    dispatcher.drain notice ⟨taken.map .fresh, rest⟩ office =
      dispatcher.dispatchAll notice recipients office := by
  let steady (office : Office) := office.delay = 0
  have settles : ∀ recipient state, steady state → ∃ outcome next,
      dispatcher.start notice recipient state = (.settled outcome, next) ∧ steady next := by
    intro recipient state still
    obtain ⟨outcome, next, settled, same⟩ :=
      start_settles dispatcher notice state recipient still
    exact ⟨outcome, next, settled, (congrArg Office.delay same).trans still⟩
  exact drain_settling dispatcher notice steady settles recipients taken rest parted instant

theorem dispatch_all_any_concurrency (concurrency : Nat) (recipients : List Recipient) :
    (dispatcher.withConcurrency concurrency).dispatchAll notice recipients office =
      dispatcher.dispatchAll notice recipients office := by
  induction recipients generalizing office with
  | nil => rfl
  | cons recipient rest induction =>
      have one : (dispatcher.withConcurrency concurrency).dispatch notice recipient office =
          dispatcher.dispatch notice recipient office := rfl
      simp only [dispatchAll, one, induction]

/-- Where mails take no time, a batch with any number of seats has the outcomes of deliveries one after
another, and leaves the office as they do but for the note that the batch is complete. -/
theorem batch_one_by_one (concurrency : Nat) (recipients : List Recipient)
    (instant : office.delay = 0) :
    let singly := dispatcher.dispatchAll notice recipients office
    let batched := (dispatcher.withConcurrency concurrency).batch notice recipients office
    let count := succeeded singly.1
    batched.1 = singly.1 ∧
      batched.2 = singly.2.note
        (.batchCompleted notice.tenant notice.kind count (singly.1.length - count)) := by
  intro singly batched count
  have drained : (dispatcher.withConcurrency concurrency).drain notice ⟨[], recipients⟩ office =
      singly := by
    calc (dispatcher.withConcurrency concurrency).drain notice ⟨[], recipients⟩ office
        = (dispatcher.withConcurrency concurrency).dispatchAll notice recipients office :=
          drain_fresh _ notice office recipients [] recipients rfl instant
      _ = singly := dispatch_all_any_concurrency dispatcher notice office concurrency recipients
  simp only [batched, batch, drained]
  exact ⟨trivial, rfl⟩

theorem batch_one_by_one_repeated :
    let office := { Office.empty with failing := ["second@school.example"] }
    let notice := Notice.mk (Uuid.ofNat 7) .announcement
    let first := Recipient.mk "first@school.example" Context.empty
    let second := Recipient.mk "second@school.example" Context.empty
    let batched := (standard.withConcurrency 0).batch notice [first, second, first] office
    office.delay = 0 ∧ batched.1.map Except.toOption = [some "mock-1", none, some "mock-2"] ∧
      batched.2.attempts = 3 ∧ batched.2.sent.length = 2 ∧ batched.2.logs.length = 3 := by
  intro office notice first second batched
  obtain ⟨outcomes, left⟩ :=
    batch_one_by_one standard notice office 0 [first, second, first] rfl
  refine ⟨rfl, ?_⟩
  rw [show batched.1 = _ from outcomes, show batched.2 = _ from left]
  decide +kernel

end Dispatcher

end SchoolNotice
