import SchoolNotice.Delivery.Batch
import SchoolNotice.Delivery.Office

/-!
The deliveries of a batch under way together. A delivery advances from one call of a service to the next;
between two of its steps any other delivery may advance, a recipient may be taken up if a seat is free,
an outcome may be passed on, time may pass and all may be cancelled. Nothing here says in which order that
happens, so what holds of every flight holds of every batch.
-/

namespace SchoolNotice

/-- How far a delivery has come, by what it does next. -/
inductive Progress where
  | enriching
  | selecting (context : Context)
  | sending (source : Source) (email : Email)
  | waiting (source : Source) (email : Email)
  | logging (source : Source) (email : Email) (reply : Reply)
  | settled (outcome : Outcome)

namespace Dispatcher

open Services

variable {σ : Type} [Services σ]

/-- One step of a delivery: up to its next call of a service and through that call. -/
def advance (dispatcher : Dispatcher) (notice : Notice) (recipient : Recipient) :
    Progress → σ → Progress × σ
  | .enriching, state =>
      match enrich true notice.tenant recipient.context state with
      | (.error error, state) =>
          (.settled (.error error), note (failure notice recipient.address error) state)
      | (.ok context, state) => (.selecting context, state)
  | .selecting context, state =>
      match dispatcher.compose true notice context state with
      | (.error error, state) =>
          (.settled (.error error), note (failure notice recipient.address error) state)
      | (.ok (source, rendered), state) =>
          (.sending source (rendered.toEmail recipient.address dispatcher.sender), state)
  | .sending source email, state =>
      if cancelled state then
        (.settled (.error .cancelled), note (failure notice recipient.address .cancelled) state)
      else
        match post email state with
        | (none, state) => (.waiting source email, state)
        | (some reply, state) =>
            (.logging source email reply, note (answered notice source email reply) state)
  | .waiting source email, state =>
      if cancelled state then
        (.settled (.error .cancelled), note (failure notice recipient.address .cancelled) state)
      else
        let (reply, state) := collect email state
        (.logging source email reply, note (answered notice source email reply) state)
  | .logging source email reply, state =>
      (.settled (reply.mapError .transport),
        record (entryOf notice source email reply (now state)) state)
  | .settled outcome, state => (.settled outcome, state)

end Dispatcher

structure Flight where
  /-- How far the deliveries have come to the recipients that were taken up, in their order. -/
  progress : List Progress
  /-- The outcomes that were passed on, in the order of the recipients. -/
  passed : List Outcome
  office : Office
  /-- The recipients' places, in the order in which their mails were sent. -/
  mailed : List Nat
  /-- The recipients' places, in the order in which their log entries were written. -/
  logged : List Nat

inductive FlightEvent where
  | take
  | advance (place : Nat)
  | pass
  | wait
  | cancel
deriving DecidableEq, Repr

namespace Flight

def ready (office : Office) : Flight :=
  { progress := [], passed := [], office := office, mailed := [], logged := [] }

/-- A place behind those before, if a list became longer. -/
def noted (place before after : Nat) (places : List Nat) : List Nat :=
  if before < after then places ++ [place] else places

/-- A recipient waits to be taken up, and a seat is free. -/
def hasRoom (room waiting : Nat) (flight : Flight) : Bool :=
  flight.progress.length < waiting && flight.progress.length < flight.passed.length + room

/-- What cannot happen changes nothing: without a free seat no recipient is taken up, and no outcome is
passed on before the delivery next in order has settled. -/
def step (dispatcher : Dispatcher) (notice : Notice) (recipients : List Recipient)
    (flight : Flight) : FlightEvent → Flight
  | .take =>
      if flight.hasRoom dispatcher.room recipients.length then
        { flight with progress := flight.progress ++ [.enriching] }
      else flight
  | .advance place =>
      match recipients[place]?, flight.progress[place]? with
      | some recipient, some progress =>
          let (progress, office) := dispatcher.advance notice recipient progress flight.office
          { flight with
            progress := flight.progress.set place progress
            office := office
            mailed := noted place flight.office.sent.length office.sent.length flight.mailed
            logged := noted place flight.office.logs.length office.logs.length flight.logged }
      | _, _ => flight
  | .pass =>
      match flight.progress[flight.passed.length]? with
      | some (.settled outcome) => { flight with passed := flight.passed ++ [outcome] }
      | _ => flight
  | .wait => { flight with office := flight.office.wait }
  | .cancel => { flight with office := { flight.office with cancelled := true } }

def run (dispatcher : Dispatcher) (notice : Notice) (recipients : List Recipient)
    (flight : Flight) (events : List FlightEvent) : Flight :=
  events.foldl (step dispatcher notice recipients) flight

def OutcomeAt (flight : Flight) (place : Nat) (outcome : Outcome) : Prop :=
  flight.progress[place]? = some (.settled outcome)

end Flight

end SchoolNotice
