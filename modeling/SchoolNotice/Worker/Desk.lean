import SchoolNotice.Database.Server
import SchoolNotice.Delivery.Dispatcher
import SchoolNotice.Mail.Ses

/-!
The services of the worker: directory, store and log in a database, and a mailer chosen by the
settings. What was sent out is kept with the state.
-/

namespace SchoolNotice

inductive Carrier where
  | smtp (server : Option Smtp.Server)
  | ses (respond : Json → Option Ses.Response)
  | noop

structure Desk where
  server : Database.Server
  carrier : Carrier
  /-- The sender's address of mail that has none of its own. -/
  usualSender : String
  clock : Instant
  /-- The identifiers for messages, and how many of them were used. -/
  freshId : Nat → String
  used : Nat
  statements : List Database.Statement
  transmissions : List Smtp.Transmission
  /-- The entries that were sent to the log, also those that it refused. -/
  entries : List LogEntry
  events : List Event

namespace Desk

def note (event : Event) (desk : Desk) : Desk := { desk with events := desk.events ++ [event] }

def findProfile (tenant : Uuid) (desk : Desk) : Except StoreError (Option Profile) × Desk :=
  let (found, sent) := desk.server.findProfile tenant
  (found, { desk with statements := desk.statements ++ sent })

def findActive (tenant : Uuid) (kind : Kind) (desk : Desk) :
    Except StoreError (List StoredTemplate) × Desk :=
  let (found, sent) := desk.server.findActive tenant kind
  (found, { desk with statements := desk.statements ++ sent })

def insertLog (entry : LogEntry) (desk : Desk) : Except StoreError Unit × Desk :=
  let (answer, sent) := desk.server.insert entry
  (answer,
    { desk with statements := desk.statements ++ sent, entries := desk.entries ++ [entry] })

/-- Sends a mail; every mailer of the worker answers at once. -/
def collect (email : Email) (desk : Desk) : Reply × Desk :=
  let id := desk.freshId desk.used
  let desk := { desk with used := desk.used + 1 }
  match desk.carrier with
  | .noop =>
      let messageId := "noop-" ++ id
      (.ok messageId, desk.note (.mailSkipped email.recipient email.subject messageId))
  | .smtp server =>
      let (reply, taken) := Smtp.send server desk.usualSender id email
      (reply, { desk with transmissions := desk.transmissions ++ taken.toList })
  | .ses respond =>
      match respond (Ses.request desk.usualSender email) with
      | none => (.error Ses.refused, desk)
      | some response =>
          let (reply, events) := Ses.reply response email
          (reply, { desk with events := desk.events ++ events })

instance : Services Desk where
  cancelled _ := false
  note := note
  now desk := desk.clock
  findProfile := findProfile
  findActive := findActive
  post email desk := let (reply, desk) := desk.collect email; (some reply, desk)
  collect := collect
  insertLog := insertLog
  wait desk := desk

end Desk

end SchoolNotice
