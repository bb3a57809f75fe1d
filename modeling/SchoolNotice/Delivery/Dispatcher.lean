import SchoolNotice.Delivery.Services
import SchoolNotice.Notice.Selection

/-!
Delivering a notice. A delivery completes the branding from the directory, chooses and fills a
template, hands the mail over and logs the reply. Before each call of a service it looks whether
deliveries have been cancelled; a call that was begun counts. A log that cannot be written changes
nothing in the outcome.
-/

namespace SchoolNotice

structure Notice where
  tenant : Uuid
  kind : Kind
deriving DecidableEq, Repr

structure Recipient where
  address : String
  context : Context

abbrev Outcome := Except DeliveryError String

instance decidableEqExcept {ε α : Type} [DecidableEq ε] [DecidableEq α] :
    DecidableEq (Except ε α)
  | .ok value, .ok other => decidable_of_iff (value = other) ⟨congrArg Except.ok, Except.ok.inj⟩
  | .error error, .error other =>
      decidable_of_iff (error = other) ⟨congrArg Except.error, Except.error.inj⟩
  | .ok _, .error _ => .isFalse nofun
  | .error _, .ok _ => .isFalse nofun

structure Dispatcher where
  registry : Registry
  /-- The sender's address for all mails, where it is not the usual one. -/
  sender : Option String
  /-- How many recipients of a batch may be under way. -/
  concurrency : Nat

/-- Where a delivery stands once it can go no further by itself. -/
inductive Standing where
  | waiting (source : Source) (email : Email)
  | settled (outcome : Outcome)

namespace Dispatcher

open Services

variable {σ : Type} [Services σ]

def defaultConcurrency : Nat := 8

def standard : Dispatcher := ⟨Registry.standard, none, defaultConcurrency⟩

/-- A blank address counts as none. -/
def withSender (dispatcher : Dispatcher) (sender : Option String) : Dispatcher :=
  { dispatcher with sender := sender.bind Text.nonBlank? }

/-- At least one recipient is under way. -/
def withConcurrency (dispatcher : Dispatcher) (concurrency : Nat) : Dispatcher :=
  { dispatcher with concurrency := max concurrency 1 }

/-- The context with its branding completed from the directory. Without `heed` cancelling is not
looked at. A tenant that is not found leaves the context as it is. -/
def enrich (heed : Bool) (tenant : Uuid) (context : Context) (state : σ) :
    Except DeliveryError Context × σ :=
  if context.hasCompleteBranding then (.ok context, state)
  else if heed && cancelled state then (.error .cancelled, state)
  else
    match findProfile tenant state with
    | (.ok (some profile), state) => (.ok (context.withMissingSchoolFields profile), state)
    | (.ok none, state) => (.ok context, note (.tenantUnknown tenant) state)
    | (.error error, state) => (.ok context, note (.tenantLookupFailed tenant error) state)

def select (dispatcher : Dispatcher) (notice : Notice) (state : σ) :
    Except DeliveryError Selected × σ :=
  let (found, state) := findActive notice.tenant notice.kind state
  (Selected.choose dispatcher.registry notice.tenant notice.kind found, state)

def compose (dispatcher : Dispatcher) (heed : Bool) (notice : Notice) (context : Context)
    (state : σ) : Except DeliveryError (Source × Rendered) × σ :=
  if heed && cancelled state then (.error .cancelled, state)
  else
    match dispatcher.select notice state with
    | (.error error, state) => (.error error, state)
    | (.ok selected, state) =>
        let rendered := Rendered.ofPatterns selected.subject selected.body selected.theme context
        (.ok (selected.source, rendered), note (.rendered selected.source selected.theme) state)

/-- All that comes before the mail. -/
def prepare (dispatcher : Dispatcher) (heed : Bool) (notice : Notice) (context : Context)
    (state : σ) : Except DeliveryError (Source × Rendered) × σ :=
  match enrich heed notice.tenant context state with
  | (.error error, state) => (.error error, state)
  | (.ok context, state) => dispatcher.compose heed notice context state

/-- The event of a delivery that ends before the mailer replied. -/
def failure (notice : Notice) (address : String) : DeliveryError → Event
  | .cancelled => .deliveryCancelled notice.tenant notice.kind address
  | error => .deliveryFailed notice.tenant notice.kind address error

def answered (notice : Notice) (source : Source) (email : Email) : Reply → Event
  | .ok messageId => .sent notice.tenant notice.kind source email.recipient messageId
  | .error error => .sendFailed notice.tenant notice.kind source email.recipient error

def entryOf (notice : Notice) (source : Source) (email : Email) (reply : Reply)
    (sentAt : Instant) : LogEntry :=
  { tenant := notice.tenant
    kind := notice.kind
    source := source
    recipient := email.recipient
    subject := email.subject
    status := match reply with | .ok _ => .sent | .error _ => .failed
    error := match reply with | .ok _ => none | .error error => some error.message
    messageId := match reply with | .ok messageId => some messageId | .error _ => none
    sentAt := sentAt }

/-- Writes a log entry; what goes wrong with it is only noted. -/
def record (entry : LogEntry) (state : σ) : σ :=
  if cancelled state then note .logSkipped state
  else
    match insertLog entry state with
    | (.ok (), state) => state
    | (.error error, state) => note (.logFailed error) state

/-- The end of a delivery: the reply is noted, logged and returned. -/
def conclude (notice : Notice) (source : Source) (email : Email) (reply : Reply) (state : σ) :
    Outcome × σ :=
  let state := note (answered notice source email reply) state
  (reply.mapError .transport, record (entryOf notice source email reply (now state)) state)

/-- A delivery up to the point where it ends or its mail is under way. -/
def start (dispatcher : Dispatcher) (notice : Notice) (recipient : Recipient) (state : σ) :
    Standing × σ :=
  match dispatcher.prepare true notice recipient.context state with
  | (.error error, state) =>
      (.settled (.error error), note (failure notice recipient.address error) state)
  | (.ok (source, rendered), state) =>
      let email := rendered.toEmail recipient.address dispatcher.sender
      if cancelled state then
        (.settled (.error .cancelled), note (failure notice recipient.address .cancelled) state)
      else
        match post email state with
        | (none, state) => (.waiting source email, state)
        | (some reply, state) =>
            let (outcome, state) := conclude notice source email reply state
            (.settled outcome, state)

def land (notice : Notice) : Standing → σ → Outcome × σ
  | .settled outcome, state => (outcome, state)
  | .waiting source email, state =>
      if cancelled state then
        (.error .cancelled, note (failure notice email.recipient .cancelled) state)
      else
        let (reply, state) := collect email state
        conclude notice source email reply state

def dispatch (dispatcher : Dispatcher) (notice : Notice) (recipient : Recipient) (state : σ) :
    Outcome × σ :=
  match dispatcher.start notice recipient state with
  | (.settled outcome, state) => (outcome, state)
  | (standing, state) => land notice standing (wait state)

/-- The notice as it would be sent. Nothing is sent, and cancelling does not matter. -/
def preview (dispatcher : Dispatcher) (notice : Notice) (context : Context) (state : σ) :
    Except DeliveryError Rendered × σ :=
  match dispatcher.prepare false notice context state with
  | (.error error, state) => (.error error, state)
  | (.ok (source, rendered), state) =>
      (.ok rendered, note (.previewed notice.tenant notice.kind source) state)

end Dispatcher

end SchoolNotice
