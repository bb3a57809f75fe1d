import SchoolNotice.Delivery.Dispatcher

/-!
Delivering to many recipients. A batch has a buffer with a bounded number of seats. A recipient is taken
from the list when a seat is free, and its delivery begins when it comes to the front of the buffer or
when all deliveries before it wait. Outcomes are passed on from the front only, so they come in the order
of the recipients, whichever delivery ends first.
-/

namespace SchoolNotice

/-- A place in the buffer: a recipient whose delivery has not begun, or a delivery under way. -/
inductive Seat where
  | fresh (recipient : Recipient)
  | begun (standing : Standing)

structure Buffer where
  seats : List Seat
  /-- The recipients that have no seat yet. -/
  rest : List Recipient

namespace Buffer

def size (buffer : Buffer) : Nat := buffer.seats.length + buffer.rest.length

def fill (room : Nat) (buffer : Buffer) : Buffer :=
  let free := room - buffer.seats.length
  { seats := buffer.seats ++ (buffer.rest.take free).map .fresh, rest := buffer.rest.drop free }

theorem size_fill (room : Nat) (buffer : Buffer) : (buffer.fill room).size = buffer.size := by
  simp only [size, fill, List.length_append, List.length_map, List.length_take, List.length_drop]
  omega

end Buffer

namespace Dispatcher

open Services

variable {σ : Type} [Services σ]

/-- How many seats the buffer of a batch has; at least one. -/
def room (dispatcher : Dispatcher) : Nat := max dispatcher.concurrency 1

def beginAll (dispatcher : Dispatcher) (notice : Notice) : List Seat → σ → List Seat × σ
  | [], state => ([], state)
  | .begun standing :: rest, state =>
      let (seats, state) := beginAll dispatcher notice rest state
      (.begun standing :: seats, state)
  | .fresh recipient :: rest, state =>
      let (standing, state) := dispatcher.start notice recipient state
      let (seats, state) := beginAll dispatcher notice rest state
      (.begun standing :: seats, state)

theorem length_begin_all (dispatcher : Dispatcher) (notice : Notice) (seats : List Seat)
    (state : σ) : (dispatcher.beginAll notice seats state).1.length = seats.length := by
  fun_induction beginAll dispatcher notice seats state <;> simp_all

/-- The outcome of the delivery at the front, and the seats behind it. While the front waits for its
reply, the deliveries behind it begin. -/
def passFront (dispatcher : Dispatcher) (notice : Notice) (front : Seat) (behind : List Seat)
    (state : σ) : Outcome × List Seat × σ :=
  match front with
  | .begun standing =>
      let (outcome, state) := land notice standing state
      (outcome, behind, state)
  | .fresh recipient =>
      match dispatcher.start notice recipient state with
      | (.settled outcome, state) => (outcome, behind, state)
      | (standing, state) =>
          let (behind, state) := dispatcher.beginAll notice behind state
          let (outcome, state) := land notice standing (wait state)
          (outcome, behind, state)

theorem length_pass_front (dispatcher : Dispatcher) (notice : Notice) (front : Seat)
    (behind : List Seat) (state : σ) :
    (dispatcher.passFront notice front behind state).2.1.length = behind.length := by
  unfold passFront
  split
  · rfl
  · split
    · rfl
    · exact length_begin_all dispatcher notice behind _

def drain (dispatcher : Dispatcher) (notice : Notice) (buffer : Buffer) (state : σ) :
    List Outcome × σ :=
  match _ : buffer.fill dispatcher.room with
  | ⟨[], _⟩ => ([], state)
  | ⟨front :: behind, rest⟩ =>
      let passed := dispatcher.passFront notice front behind state
      let (outcomes, state) := drain dispatcher notice ⟨passed.2.1, rest⟩ passed.2.2
      (passed.1 :: outcomes, state)
termination_by buffer.size
decreasing_by
  rename_i filled
  have same := Buffer.size_fill dispatcher.room buffer
  rw [filled] at same
  rw [← same]
  simp only [Buffer.size, length_pass_front, List.length_cons]
  omega

theorem drain_empty {dispatcher : Dispatcher} {buffer : Buffer} {rest : List Recipient}
    (filled : buffer.fill dispatcher.room = ⟨[], rest⟩) (notice : Notice) (state : σ) :
    dispatcher.drain notice buffer state = ([], state) := by
  rw [drain]
  split
  · rfl
  · next other => cases other.symm.trans filled

theorem drain_front {dispatcher : Dispatcher} {buffer : Buffer} {front : Seat} {behind : List Seat}
    {rest : List Recipient} (filled : buffer.fill dispatcher.room = ⟨front :: behind, rest⟩)
    (notice : Notice) (state : σ) :
    dispatcher.drain notice buffer state =
      let passed := dispatcher.passFront notice front behind state
      let drained := dispatcher.drain notice ⟨passed.2.1, rest⟩ passed.2.2
      (passed.1 :: drained.1, drained.2) := by
  rw [drain]
  split
  · next other => cases other.symm.trans filled
  · next other =>
    cases other.symm.trans filled
    rfl

def succeeded (outcomes : List Outcome) : Nat :=
  (outcomes.filter fun outcome => outcome.isOk).length

def batch (dispatcher : Dispatcher) (notice : Notice) (recipients : List Recipient) (state : σ) :
    List Outcome × σ :=
  let (outcomes, state) := dispatcher.drain notice ⟨[], recipients⟩ state
  let count := succeeded outcomes
  (outcomes,
    note (.batchCompleted notice.tenant notice.kind count (outcomes.length - count)) state)

/-- The same deliveries, each begun when the one before it has ended. -/
def dispatchAll (dispatcher : Dispatcher) (notice : Notice) : List Recipient → σ → List Outcome × σ
  | [], state => ([], state)
  | recipient :: rest, state =>
      let (outcome, state) := dispatcher.dispatch notice recipient state
      let (outcomes, state) := dispatchAll dispatcher notice rest state
      (outcome :: outcomes, state)

end Dispatcher

end SchoolNotice
