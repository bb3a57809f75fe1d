import SchoolNotice.Delivery.Dispatcher

/-!
An office in memory: all that deliveries call upon, as one value. Faults can be switched on, mails
can take time, and a switch cancels the deliveries, at once, after some time or when a given service
is next called.
-/

namespace SchoolNotice

inductive Collaborator where
  | tenants
  | templates
  | sender
  | logs
deriving DecidableEq, Repr

/-- What becomes of mail: it is kept in the office, or skipped and answered with an identifier. -/
inductive Mailer where
  | keeping
  | skipping (id : String)
deriving DecidableEq, Repr

structure Office where
  templates : List StoredTemplate
  profiles : List (Uuid × Profile)
  templatesFail : Bool
  tenantsFail : Bool
  logsFail : Bool
  /-- Addresses to which mail fails. -/
  failing : List String
  /-- Addresses that are refused before the mailer is asked. -/
  refused : List String
  mailer : Mailer
  /-- How many milliseconds a mail that is kept is under way. -/
  delay : Nat
  sent : List Email
  attempts : Nat
  lookups : Nat
  logs : List LogEntry
  clock : Instant
  cancelled : Bool
  /-- The service with whose next answer deliveries are cancelled. -/
  armed : Option Collaborator
  /-- The milliseconds that passed since the deliveries under way began. -/
  elapsed : Nat
  /-- After how many milliseconds deliveries are cancelled. -/
  alarm : Option Nat
  events : List Event

namespace Office

def empty : Office :=
  { templates := [], profiles := [], templatesFail := false, tenantsFail := false
    logsFail := false, failing := [], refused := [], mailer := .keeping, delay := 0, sent := []
    attempts := 0, lookups := 0, logs := [], clock := ⟨0, 0⟩, cancelled := false, armed := none
    elapsed := 0, alarm := none, events := [] }

/-- The fault of a service that was switched off. -/
def outage : StoreError := .database .poolTimedOut

/-- A service answers, which may be what cancels the deliveries. -/
def answering (service : Collaborator) (office : Office) : Office :=
  if office.armed = some service then { office with armed := none, cancelled := true } else office

def renewed (office : Office) : Office := { office with cancelled := false, armed := none }

def note (event : Event) (office : Office) : Office :=
  { office with events := office.events ++ [event] }

def profileOf? (office : Office) (tenant : Uuid) : Option Profile :=
  (office.profiles.find? fun entry => entry.1 == tenant).map Prod.snd

def findProfile (tenant : Uuid) (office : Office) : Except StoreError (Option Profile) × Office :=
  let office := { office with lookups := office.lookups + 1 }
  let answer := if office.tenantsFail then .error outage else .ok (office.profileOf? tenant)
  (answer, office.answering .tenants)

def findActive (tenant : Uuid) (kind : Kind) (office : Office) :
    Except StoreError (List StoredTemplate) × Office :=
  let answer :=
    if office.templatesFail then .error outage
    else .ok (StoredTemplate.activeFor tenant kind office.templates)
  (answer, office.answering .templates)

def collect (email : Email) (office : Office) : Reply × Office :=
  if email.recipient ∈ office.failing then
    (.error (.sendFailed ("mock: " ++ email.recipient ++ " への送信失敗")), office.answering .sender)
  else
    let sent := office.sent ++ [email]
    (.ok ("mock-" ++ toString sent.length), { office with sent := sent }.answering .sender)

def post (email : Email) (office : Office) : Option Reply × Office :=
  if email.recipient ∈ office.refused then
    (some (.error (.invalidAddress email.recipient)), office.answering .sender)
  else
    match office.mailer with
    | .skipping id =>
        let messageId := "noop-" ++ id
        (some (.ok messageId),
          (office.note (.mailSkipped email.recipient email.subject messageId)).answering .sender)
    | .keeping =>
        let office := { office with attempts := office.attempts + 1 }
        if office.delay = 0 then
          let (reply, office) := office.collect email
          (some reply, office)
        else (none, office)

def insertLog (entry : LogEntry) (office : Office) : Except StoreError Unit × Office :=
  if office.logsFail then (.error outage, office.answering .logs)
  else (.ok (), { office with logs := office.logs ++ [entry] }.answering .logs)

/-- Time passes until the mails under way are answered, or until the alarm if that comes before. -/
def wait (office : Office) : Office :=
  let due := office.elapsed + office.delay
  match office.alarm with
  | some time =>
      if time < due then { office with elapsed := time, alarm := none, cancelled := true }
      else { office with elapsed := due }
  | none => { office with elapsed := due }

instance : Services Office where
  cancelled office := office.cancelled
  note := note
  now office := office.clock
  findProfile := findProfile
  findActive := findActive
  post := post
  collect := collect
  insertLog := insertLog
  wait := wait

end Office

end SchoolNotice
