import SchoolNotice.Database.Row
import SchoolNotice.Delivery.Services

/-!
The statements that are sent to the database, and the calls that consist of them. Templates are read
on a connection whose session was set to their tenant before; whenever a connection is given back
its session is reset, also after a statement that failed.
-/

namespace SchoolNotice.Database

structure Migration where
  version : Nat
  description : String
deriving DecidableEq, Repr

def migrations : List Migration :=
  [⟨20260401000001, "create tenants"⟩, ⟨20260401000002, "create notification templates"⟩,
    ⟨20260401000003, "create notification logs"⟩]

inductive Statement where
  | setTenant (tenant : Uuid)
  | resetTenant
  | templates (tenant : Uuid) (kind : Kind)
  | tenants (tenant : Uuid)
  | log (entry : LogEntry)
  | migration (step : Migration)
deriving DecidableEq, Repr

/-- A server by the rows that it answers with and the statements that it refuses. -/
structure Server where
  tenantRows : List TenantRow
  templateRows : List TemplateRow
  refuses : Statement → Bool
  /-- What a refused statement is answered with. -/
  refusal : String
  refusesLogin : Bool

inductive Call where
  | findActive (tenant : Uuid) (kind : Kind)
  | findProfile (tenant : Uuid)
  | insert (entry : LogEntry)
  | acquire (tenant : Uuid)
  | migrate
deriving DecidableEq, Repr

def Call.script : Call → List Statement
  | .findActive tenant kind => [.setTenant tenant, .templates tenant kind]
  | .findProfile tenant => [.tenants tenant]
  | .insert entry => [.log entry]
  | .acquire tenant => [.setTenant tenant]
  | .migrate => migrations.map .migration

namespace Server

/-- Sends statements up to the first one that is refused; says which were sent and whether the last
of them was refused. -/
def send (server : Server) : List Statement → List Statement × Bool
  | [] => ([], false)
  | statement :: rest =>
      if server.refuses statement then ([statement], true)
      else
        let (sent, failed) := server.send rest
        (statement :: sent, failed)

/-- Carries a call out on a connection of its own: the fault, if there is one, and the statements
that were sent, with the reset at the end. -/
def carryOut (server : Server) (call : Call) : Option DatabaseFault × List Statement :=
  let (sent, failed) := server.send call.script
  (if failed then some (.reported server.refusal) else none, sent ++ [.resetTenant])

def findActive (server : Server) (tenant : Uuid) (kind : Kind) :
    Except StoreError (List StoredTemplate) × List Statement :=
  let (fault, sent) := server.carryOut (.findActive tenant kind)
  match fault with
  | some fault => (.error (.database fault), sent)
  | none => (TemplateRow.decodeAll server.templateRows, sent)

def findProfile (server : Server) (tenant : Uuid) :
    Except StoreError (Option Profile) × List Statement :=
  let (fault, sent) := server.carryOut (.findProfile tenant)
  match fault, server.tenantRows with
  | some fault, _ => (.error (.database fault), sent)
  | none, [] => (.ok none, sent)
  | none, row :: _ => (row.decode.map some, sent)

def insert (server : Server) (entry : LogEntry) : Except StoreError Unit × List Statement :=
  let (fault, sent) := server.carryOut (.insert entry)
  match fault with
  | some fault => (.error (.database fault), sent)
  | none => (.ok (), sent)

def acquire (server : Server) (tenant : Uuid) : Except StoreError Uuid × List Statement :=
  let (fault, sent) := server.carryOut (.acquire tenant)
  match fault with
  | some fault => (.error (.database fault), sent)
  | none => (.ok tenant, sent)

/-- Applies the steps of the schema, none of which was applied before. -/
def migrate (server : Server) : Bool × List Statement :=
  let (fault, sent) := server.carryOut .migrate
  (fault.isNone, sent)

end Server

/-- The servers that can be reached, by address. A refused login is no connection. -/
def connect (reach : String → Option Server) (address : String) : Option Server :=
  (reach address).filter fun server => !server.refusesLogin

end SchoolNotice.Database
