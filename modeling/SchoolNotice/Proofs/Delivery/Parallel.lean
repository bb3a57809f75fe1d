import SchoolNotice.Proofs.Delivery.Cases

/-!
Deliveries of one notice in two states. If two states answer every call that concerns the notice alike, and
are alike again after it, then whatever is done for the notice in the one has the result that it has in the
other. The states may be of different types: the one may know more than the other. Of the directory only
the contexts matter that it is asked to complete.
-/

namespace SchoolNotice

open Services

variable {σ τ : Type} [Services σ] [Services τ]

def Parallel {α : Type} (alike : σ → τ → Prop) (first : α × σ) (second : α × τ) : Prop :=
  first.1 = second.1 ∧ alike first.2 second.2

def Seat.Within (among : Context → Prop) : Seat → Prop
  | .fresh recipient => among recipient.context
  | .begun _ => True

structure Buffer.Within (among : Context → Prop) (buffer : Buffer) : Prop where
  seats : ∀ seat ∈ buffer.seats, seat.Within among
  rest : ∀ recipient ∈ buffer.rest, among recipient.context

theorem Buffer.Within.fill {among : Context → Prop} {buffer : Buffer}
    (within : buffer.Within among) (room : Nat) : (buffer.fill room).Within among := by
  constructor
  · intro seat member
    rcases List.mem_append.mp member with already | taken
    · exact within.seats seat already
    · obtain ⟨recipient, waiting, rfl⟩ := List.mem_map.mp taken
      exact within.rest recipient (List.mem_of_mem_take waiting)
  · intro recipient member
    exact within.rest recipient (List.mem_of_mem_drop member)

structure SelectsAlike (notice : Notice) (alike : σ → τ → Prop) : Prop where
  note : ∀ event {state other}, alike state other → alike (note event state) (note event other)
  findActive : ∀ {state other}, alike state other →
    Parallel alike (findActive notice.tenant notice.kind state)
      (findActive notice.tenant notice.kind other)

/-- What is read for a notice is the same in both states, and they stay alike. -/
structure LooksAlike (notice : Notice) (alike : σ → τ → Prop) : Prop
    extends SelectsAlike notice alike where
  findProfile : ∀ {state other}, alike state other →
    Parallel alike (findProfile notice.tenant state) (findProfile notice.tenant other)

structure ReadsAlike (notice : Notice) (among : Context → Prop) (alike : σ → τ → Prop) : Prop
    extends SelectsAlike notice alike where
  enrich : ∀ (heed : Bool) {context : Context}, among context → ∀ {state other},
    (heed = true → cancelled state = cancelled other) → alike state other →
      Parallel alike (Dispatcher.enrich heed notice.tenant context state)
        (Dispatcher.enrich heed notice.tenant context other)

structure HandsAlike (alike : σ → τ → Prop) : Prop where
  cancelled : ∀ {state other}, alike state other → cancelled state = cancelled other
  now : ∀ {state other}, alike state other → now state = now other
  post : ∀ email {state other}, alike state other →
    Parallel alike (post email state) (post email other)
  collect : ∀ email {state other}, alike state other →
    Parallel alike (collect email state) (collect email other)
  wait : ∀ {state other}, alike state other → alike (wait state) (wait other)

structure MailsAlike (notice : Notice) (alike : σ → τ → Prop) : Prop
    extends LooksAlike notice alike, HandsAlike alike

/-- The calls for a notice are answered alike, and the states stay alike when its log entries are recorded,
whatever the log answers. -/
structure GoesAlike (notice : Notice) (alike : σ → τ → Prop) : Prop
    extends MailsAlike notice alike where
  record : ∀ entry : LogEntry, entry.tenant = notice.tenant → ∀ {state other},
    alike state other → alike (Dispatcher.record entry state) (Dispatcher.record entry other)

structure DeliversAlike (notice : Notice) (among : Context → Prop) (alike : σ → τ → Prop) : Prop
    extends ReadsAlike notice among alike, HandsAlike alike where
  record : ∀ entry : LogEntry, entry.tenant = notice.tenant → ∀ {state other},
    alike state other → alike (Dispatcher.record entry state) (Dispatcher.record entry other)

/-- Calls that concern a notice are answered alike. -/
structure AnswersAlike (notice : Notice) (alike : σ → τ → Prop) : Prop
    extends MailsAlike notice alike where
  insertLog : ∀ entry : LogEntry, entry.tenant = notice.tenant → ∀ {state other},
    alike state other → Parallel alike (insertLog entry state) (insertLog entry other)

omit [Services σ] [Services τ] in
theorem Parallel.parts {α : Type} {alike : σ → τ → Prop} {first : α × σ} {second : α × τ}
    (parallel : Parallel alike first second) : ∃ answer state other,
      first = (answer, state) ∧ second = (answer, other) ∧ alike state other := by
  rcases first with ⟨answer, state⟩
  rcases second with ⟨_, other⟩
  rcases parallel with ⟨rfl, near⟩
  exact ⟨answer, state, other, rfl, rfl, near⟩

/-- A log that answers an entry alike leaves the states alike when the entry is recorded. -/
theorem record_alike {alike : σ → τ → Prop} (hands : HandsAlike alike)
    (noted : ∀ event {state other}, alike state other → alike (note event state) (note event other))
    {entry : LogEntry} {state : σ} {other : τ} (near : alike state other)
    (inserted : Parallel alike (insertLog entry state) (insertLog entry other)) :
    alike (Dispatcher.record entry state) (Dispatcher.record entry other) := by
  obtain ⟨answer, after, beyond, found, also, later⟩ := inserted.parts
  unfold Dispatcher.record
  rw [hands.cancelled near, found, also]
  split
  · exact noted _ near
  · cases answer with
    | error error => exact noted _ later
    | ok written => exact later

theorem AnswersAlike.goes {notice : Notice} {alike : σ → τ → Prop}
    (answers : AnswersAlike notice alike) : GoesAlike notice alike where
  toMailsAlike := answers.toMailsAlike
  record entry own _ _ near :=
    record_alike answers.toHandsAlike answers.note near (answers.insertLog entry own near)

/-- What holds of a state still holds after an event or after the directory or the templates were read. -/
structure OutlastsLookups (holds : σ → Prop) : Prop where
  note : ∀ event {state}, holds state → holds (note event state)
  findProfile : ∀ tenant {state}, holds state → holds (findProfile tenant state).2
  findActive : ∀ tenant kind {state}, holds state → holds (findActive tenant kind state).2

structure Outlasts (holds : σ → Prop) : Prop extends OutlastsLookups holds where
  post : ∀ email {state}, holds state → holds (post email state).2
  collect : ∀ email {state}, holds state → holds (collect email state).2
  insertLog : ∀ entry {state}, holds state → holds (insertLog entry state).2
  wait : ∀ {state}, holds state → holds (wait state)

def Both (holds : σ → Prop) (state other : σ) : Prop := state = other ∧ holds state

theorem Outlasts.answers {holds : σ → Prop} (outlasts : Outlasts holds) (notice : Notice) :
    AnswersAlike notice (Both holds) where
  note := by
    rintro event state _ ⟨rfl, held⟩
    exact ⟨rfl, outlasts.note event held⟩
  findProfile := by
    rintro state _ ⟨rfl, held⟩
    exact ⟨rfl, rfl, outlasts.findProfile _ held⟩
  findActive := by
    rintro state _ ⟨rfl, held⟩
    exact ⟨rfl, rfl, outlasts.findActive _ _ held⟩
  cancelled := by
    rintro state _ ⟨rfl, _⟩
    rfl
  now := by
    rintro state _ ⟨rfl, _⟩
    rfl
  post := by
    rintro email state _ ⟨rfl, held⟩
    exact ⟨rfl, rfl, outlasts.post email held⟩
  collect := by
    rintro email state _ ⟨rfl, held⟩
    exact ⟨rfl, rfl, outlasts.collect email held⟩
  wait := by
    rintro state _ ⟨rfl, held⟩
    exact ⟨rfl, outlasts.wait held⟩
  insertLog := by
    rintro entry _ state _ ⟨rfl, held⟩
    exact ⟨rfl, rfl, outlasts.insertLog entry held⟩

namespace Dispatcher

section Seats

variable {among : Context → Prop} (dispatcher : Dispatcher) (notice : Notice) (state : σ)

theorem begin_all_within (seats : List Seat) :
    ∀ seat ∈ (dispatcher.beginAll notice seats state).1, seat.Within among := by
  induction seats generalizing state with
  | nil => exact List.forall_mem_nil _
  | cons seat rest induction =>
      cases seat with
      | begun standing => exact List.forall_mem_cons.mpr ⟨trivial, induction state⟩
      | fresh recipient => exact List.forall_mem_cons.mpr ⟨trivial, induction _⟩

theorem pass_front_within {front : Seat} {behind : List Seat}
    (within : ∀ seat ∈ front :: behind, seat.Within among) :
    ∀ seat ∈ (dispatcher.passFront notice front behind state).2.1, seat.Within among := by
  obtain ⟨-, others⟩ := List.forall_mem_cons.mp within
  cases front with
  | begun standing => exact others
  | fresh recipient =>
      simp only [passFront]
      rcases dispatcher.start notice recipient state with ⟨⟨source, email⟩ | outcome, next⟩
      · exact begin_all_within dispatcher notice next behind
      · exact others

end Seats

section Lookups

variable {holds : σ → Prop} (outlasts : OutlastsLookups holds) (dispatcher : Dispatcher)
  (heed : Bool) (notice : Notice) (context : Context) {state : σ} (held : holds state)

include outlasts held

theorem enrich_keeps (tenant : Uuid) : holds (enrich heed tenant context state).2 := by
  have found := outlasts.findProfile tenant held
  unfold enrich
  split
  · exact held
  · split
    · exact held
    · rcases answer : findProfile tenant state with ⟨error | _ | profile, next⟩
      · rw [answer] at found
        exact outlasts.note _ found
      · rw [answer] at found
        exact outlasts.note _ found
      · rw [answer] at found
        exact found

theorem select_keeps : holds (dispatcher.select notice state).2 :=
  outlasts.findActive notice.tenant notice.kind held

theorem compose_keeps : holds (dispatcher.compose heed notice context state).2 := by
  have selected := select_keeps outlasts dispatcher notice held
  unfold compose
  split
  · exact held
  · rcases answer : dispatcher.select notice state with ⟨error | template, next⟩
    · rw [answer] at selected
      exact selected
    · rw [answer] at selected
      exact outlasts.note _ selected

theorem prepare_keeps : holds (dispatcher.prepare heed notice context state).2 := by
  have enriched := enrich_keeps outlasts heed context held notice.tenant
  unfold prepare
  rcases answer : enrich heed notice.tenant context state with ⟨error | completed, next⟩
  · rw [answer] at enriched
    exact enriched
  · rw [answer] at enriched
    exact compose_keeps outlasts dispatcher heed notice completed enriched

theorem preview_keeps : holds (dispatcher.preview notice context state).2 := by
  have prepared := prepare_keeps outlasts dispatcher false notice context held
  unfold preview
  rcases answer : dispatcher.prepare false notice context state with ⟨error | rendered, next⟩
  · rw [answer] at prepared
    exact prepared
  · rw [answer] at prepared
    exact outlasts.note _ prepared

end Lookups

section Reading

variable {notice : Notice} {among : Context → Prop} {alike : σ → τ → Prop} (dispatcher : Dispatcher)
  (heed : Bool) {state : σ} {other : τ} (near : alike state other)

include near

theorem select_parallel (selects : SelectsAlike notice alike) :
    Parallel alike (dispatcher.select notice state) (dispatcher.select notice other) := by
  obtain ⟨answer, after, beyond, found, also, later⟩ := (selects.findActive near).parts
  unfold select
  rw [found, also]
  exact ⟨rfl, later⟩

omit near in
theorem heeding_parallel (heeded : heed = true → cancelled state = cancelled other) :
    (heed && cancelled state) = (heed && cancelled other) := by
  cases heed with
  | true => rw [heeded rfl]
  | false => rfl

theorem enrich_parallel (looks : LooksAlike notice alike)
    (heeded : heed = true → cancelled state = cancelled other) (context : Context) :
    Parallel alike (enrich heed notice.tenant context state)
      (enrich heed notice.tenant context other) := by
  obtain ⟨answer, after, beyond, found, also, later⟩ := (looks.findProfile near).parts
  unfold enrich
  rw [heeding_parallel heed heeded, found, also]
  split
  · exact ⟨rfl, near⟩
  · split
    · exact ⟨rfl, near⟩
    · rcases answer with error | _ | profile
      · exact ⟨rfl, looks.note _ later⟩
      · exact ⟨rfl, looks.note _ later⟩
      · exact ⟨rfl, later⟩

theorem compose_parallel (selects : SelectsAlike notice alike)
    (heeded : heed = true → cancelled state = cancelled other) (context : Context) :
    Parallel alike (dispatcher.compose heed notice context state)
      (dispatcher.compose heed notice context other) := by
  obtain ⟨answer, after, beyond, found, also, later⟩ :=
    (select_parallel dispatcher near selects).parts
  unfold compose
  rw [heeding_parallel heed heeded, found, also]
  split
  · exact ⟨rfl, near⟩
  · cases answer with
    | error error => exact ⟨rfl, later⟩
    | ok template => exact ⟨rfl, selects.note _ later⟩

theorem prepare_among (reads : ReadsAlike notice among alike)
    (heeded : heed = true → ∀ {state other}, alike state other → cancelled state = cancelled other)
    {context : Context} (within : among context) :
    Parallel alike (dispatcher.prepare heed notice context state)
      (dispatcher.prepare heed notice context other) := by
  have enriched := reads.enrich heed within (fun heeds => heeded heeds near) near
  obtain ⟨answer, after, beyond, found, also, later⟩ := enriched.parts
  unfold prepare
  rw [found, also]
  cases answer with
  | error error => exact ⟨rfl, later⟩
  | ok completed =>
      exact compose_parallel dispatcher heed later reads.toSelectsAlike
        (fun heeds => heeded heeds later) completed

theorem preview_among (reads : ReadsAlike notice among alike) {context : Context}
    (within : among context) :
    Parallel alike (dispatcher.preview notice context state)
      (dispatcher.preview notice context other) := by
  -- A preview does not look whether the deliveries have been cancelled.
  have prepared := prepare_among dispatcher false near reads nofun within
  obtain ⟨answer, after, beyond, found, also, later⟩ := prepared.parts
  unfold preview
  rw [found, also]
  rcases answer with error | ⟨source, rendered⟩
  · exact ⟨rfl, later⟩
  · exact ⟨rfl, reads.note _ later⟩

end Reading

section Looking

variable {notice : Notice} {alike : σ → τ → Prop}

theorem looks_reads (looks : LooksAlike notice alike) :
    ReadsAlike notice (fun _ => True) alike where
  toSelectsAlike := looks.toSelectsAlike
  enrich heed context _ _ _ heeded near := enrich_parallel heed near looks heeded context

theorem goes_delivers (goes : GoesAlike notice alike) :
    DeliversAlike notice (fun _ => True) alike where
  toReadsAlike := looks_reads goes.toLooksAlike
  toHandsAlike := goes.toHandsAlike
  record := goes.record

variable (looks : LooksAlike notice alike) (dispatcher : Dispatcher) {state : σ} {other : τ}

include looks

theorem prepare_parallel (heed : Bool)
    (heeded : heed = true → ∀ {state other}, alike state other → cancelled state = cancelled other)
    (context : Context) (near : alike state other) :
    Parallel alike (dispatcher.prepare heed notice context state)
      (dispatcher.prepare heed notice context other) :=
  prepare_among dispatcher heed near (looks_reads looks) heeded trivial

theorem preview_parallel (context : Context) (near : alike state other) :
    Parallel alike (dispatcher.preview notice context state)
      (dispatcher.preview notice context other) :=
  preview_among dispatcher near (looks_reads looks) trivial

end Looking

section Delivering

variable {notice : Notice} {among : Context → Prop} {alike : σ → τ → Prop}
  (delivers : DeliversAlike notice among alike) (dispatcher : Dispatcher) {state : σ} {other : τ}

include delivers

theorem conclude_parallel (source : Source) (email : Email) (reply : Reply)
    (near : alike state other) :
    Parallel alike (conclude notice source email reply state)
      (conclude notice source email reply other) := by
  have noted := delivers.note (answered notice source email reply) near
  simp only [conclude, delivers.now noted]
  exact ⟨rfl, delivers.record _ rfl noted⟩

theorem start_parallel {recipient : Recipient} (within : among recipient.context)
    (near : alike state other) :
    Parallel alike (dispatcher.start notice recipient state)
      (dispatcher.start notice recipient other) := by
  have prepared := prepare_among dispatcher true near delivers.toReadsAlike
    (fun _ => delivers.cancelled) within
  obtain ⟨answer, after, beyond, found, also, later⟩ := prepared.parts
  unfold start
  rw [found, also]
  rcases answer with error | ⟨source, rendered⟩
  · exact ⟨rfl, delivers.note _ later⟩
  · dsimp only
    rw [delivers.cancelled later]
    split
    · exact ⟨rfl, delivers.note _ later⟩
    · let email := rendered.toEmail recipient.address dispatcher.sender
      obtain ⟨reply, sent, gone, posting, handing, last⟩ := (delivers.post email later).parts
      rw [posting, handing]
      cases reply with
      | none => exact ⟨rfl, last⟩
      | some reply =>
          have concluded := conclude_parallel delivers source email reply last
          exact ⟨congrArg Standing.settled concluded.1, concluded.2⟩

theorem land_parallel (standing : Standing) (near : alike state other) :
    Parallel alike (land notice standing state) (land notice standing other) := by
  cases standing with
  | settled outcome => exact ⟨rfl, near⟩
  | waiting source email =>
      obtain ⟨reply, after, beyond, found, also, later⟩ := (delivers.collect email near).parts
      simp only [land, delivers.cancelled near, found, also]
      split
      · exact ⟨rfl, delivers.note _ near⟩
      · exact conclude_parallel delivers source email reply later

theorem dispatch_among {recipient : Recipient} (within : among recipient.context)
    (near : alike state other) :
    Parallel alike (dispatcher.dispatch notice recipient state)
      (dispatcher.dispatch notice recipient other) := by
  have started := start_parallel delivers dispatcher within near
  obtain ⟨standing, after, beyond, found, also, later⟩ := started.parts
  unfold dispatch
  rw [found, also]
  cases standing with
  | settled outcome => exact ⟨rfl, later⟩
  | waiting source email => exact land_parallel delivers _ (delivers.wait later)

theorem begin_all_parallel {seats : List Seat} (within : ∀ seat ∈ seats, seat.Within among)
    (near : alike state other) :
    Parallel alike (dispatcher.beginAll notice seats state)
      (dispatcher.beginAll notice seats other) := by
  induction seats generalizing state other with
  | nil => exact ⟨rfl, near⟩
  | cons seat rest induction =>
      obtain ⟨own, others⟩ := List.forall_mem_cons.mp within
      cases seat with
      | begun standing =>
          have begun := induction others near
          exact ⟨congrArg (Seat.begun standing :: ·) begun.1, begun.2⟩
      | fresh recipient =>
          have started := start_parallel delivers dispatcher own near
          obtain ⟨standing, after, beyond, found, also, later⟩ := started.parts
          have begun := induction others later
          simp only [beginAll, found, also]
          exact ⟨congrArg (Seat.begun standing :: ·) begun.1, begun.2⟩

theorem pass_front_parallel {front : Seat} {behind : List Seat}
    (within : ∀ seat ∈ front :: behind, seat.Within among) (near : alike state other) :
    Parallel alike (dispatcher.passFront notice front behind state).2
        (dispatcher.passFront notice front behind other).2 ∧
      (dispatcher.passFront notice front behind state).1 =
        (dispatcher.passFront notice front behind other).1 := by
  obtain ⟨own, others⟩ := List.forall_mem_cons.mp within
  cases front with
  | begun standing =>
      have landed := land_parallel delivers standing near
      exact ⟨⟨rfl, landed.2⟩, landed.1⟩
  | fresh recipient =>
      have started := start_parallel delivers dispatcher own near
      obtain ⟨standing, after, beyond, found, also, later⟩ := started.parts
      simp only [passFront, found, also]
      cases standing with
      | settled outcome => exact ⟨⟨rfl, later⟩, rfl⟩
      | waiting source email =>
          have begun := begin_all_parallel delivers dispatcher others later
          have landed := land_parallel delivers (.waiting source email) (delivers.wait begun.2)
          exact ⟨⟨begun.1, landed.2⟩, landed.1⟩

theorem drain_parallel {buffer : Buffer} (within : buffer.Within among)
    (near : alike state other) :
    Parallel alike (dispatcher.drain notice buffer state)
      (dispatcher.drain notice buffer other) := by
  induction buffer, state using @drain_induction σ _ dispatcher notice generalizing other with
  | empty state filled =>
      rw [drain_empty filled, drain_empty filled]
      exact ⟨rfl, near⟩
  | @front _ front behind rest state filled induction =>
      have seated := within.fill dispatcher.room
      rw [filled] at seated
      have behindWithin := pass_front_within dispatcher notice state seated.seats
      obtain ⟨⟨seats, later⟩, outcome⟩ :=
        pass_front_parallel delivers dispatcher seated.seats near
      obtain ⟨outcomes, last⟩ := induction ⟨behindWithin, seated.rest⟩ later
      rw [drain_front filled, drain_front filled]
      dsimp only
      rw [← outcome, ← seats]
      exact ⟨congrArg (_ :: ·) outcomes, last⟩

theorem batch_among {recipients : List Recipient}
    (within : ∀ recipient ∈ recipients, among recipient.context) (near : alike state other) :
    Parallel alike (dispatcher.batch notice recipients state)
      (dispatcher.batch notice recipients other) := by
  have waiting : Buffer.Within among ⟨[], recipients⟩ := ⟨List.forall_mem_nil _, within⟩
  have drained := drain_parallel delivers dispatcher waiting near
  obtain ⟨outcomes, after, beyond, found, also, later⟩ := drained.parts
  unfold batch
  rw [found, also]
  exact ⟨rfl, delivers.note _ later⟩

end Delivering

section Going

variable {notice : Notice} {alike : σ → τ → Prop} (goes : GoesAlike notice alike)
  (dispatcher : Dispatcher) {state : σ} {other : τ}

include goes

theorem dispatch_parallel (recipient : Recipient) (near : alike state other) :
    Parallel alike (dispatcher.dispatch notice recipient state)
      (dispatcher.dispatch notice recipient other) :=
  dispatch_among (goes_delivers goes) dispatcher trivial near

theorem batch_parallel (recipients : List Recipient) (near : alike state other) :
    Parallel alike (dispatcher.batch notice recipients state)
      (dispatcher.batch notice recipients other) :=
  batch_among (goes_delivers goes) dispatcher (fun _ _ => trivial) near

end Going

section Kept

variable {holds : σ → Prop} (outlasts : Outlasts holds) (dispatcher : Dispatcher) (notice : Notice)
  {state : σ} (held : holds state)

include outlasts held

theorem conclude_keeps (source : Source) (email : Email) (reply : Reply) :
    holds (conclude notice source email reply state).2 :=
  (conclude_parallel (goes_delivers (outlasts.answers notice).goes) source email reply
    ⟨rfl, held⟩).2.2

theorem start_keeps (recipient : Recipient) :
    holds (dispatcher.start notice recipient state).2 :=
  (start_parallel (goes_delivers (outlasts.answers notice).goes) dispatcher trivial
    ⟨rfl, held⟩).2.2

theorem land_keeps (standing : Standing) : holds (land notice standing state).2 :=
  (land_parallel (goes_delivers (outlasts.answers notice).goes) standing ⟨rfl, held⟩).2.2

theorem dispatch_keeps (recipient : Recipient) :
    holds (dispatcher.dispatch notice recipient state).2 :=
  (dispatch_parallel (outlasts.answers notice).goes dispatcher recipient ⟨rfl, held⟩).2.2

theorem batch_keeps (recipients : List Recipient) :
    holds (dispatcher.batch notice recipients state).2 :=
  (batch_parallel (outlasts.answers notice).goes dispatcher recipients ⟨rfl, held⟩).2.2

end Kept

end Dispatcher

end SchoolNotice
