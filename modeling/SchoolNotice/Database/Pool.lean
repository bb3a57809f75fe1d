import SchoolNotice.Database.Server

/-!
A pool of connections that concurrent calls share. The session of a connection may be set to a
tenant. A call takes a connection, sends its statements on it one by one, and gives it back, also if
a statement fails or the call is dropped half-way. A connection that was given back is reset before
any other call can take it; if the reset fails it is closed.
-/

namespace SchoolNotice.Database

/-- A connection, known by its number, and the setting of its session: none, an empty one, or the
text of a tenant's identifier. -/
structure Connection where
  number : Nat
  session : Option String
deriving DecidableEq, Repr

namespace Connection

def after (connection : Connection) : Statement → Connection
  | .setTenant tenant => { connection with session := some tenant.text }
  | .resetTenant => { connection with session := some "" }
  | _ => connection

end Connection

/-- A connection in the hands of a call, and the statements that the call has still to send. -/
structure Lease where
  connection : Connection
  call : Call
  pending : List Statement
deriving DecidableEq, Repr

/-- A statement of a call, with the connection as it was when the statement was sent. -/
structure Execution where
  connection : Connection
  call : Call
  statement : Statement
deriving DecidableEq, Repr

structure Pool where
  /-- How many connections there may be at once. -/
  capacity : Nat
  /-- How many connections were opened so far; the next one has this number. -/
  opened : Nat
  idle : List Connection
  leases : List Lease
  /-- Connections that were given back and are not reset yet. -/
  returned : List Connection
  executed : List Execution
deriving DecidableEq, Repr

inductive Answer where
  | done
  | refused
  /-- It is carried out, but the call fails or is dropped before it hears of it. -/
  | unheard
deriving DecidableEq, Repr

/-- What can happen next; each names a place in a list of the pool. -/
inductive PoolEvent where
  /-- A call takes the idle connection at a place, or a new one if there is none. -/
  | take (call : Call) (place : Nat)
  | send (place : Nat) (answer : Answer)
  /-- A call ends, whether it sent all its statements or not. -/
  | giveBack (place : Nat)
  | reset (place : Nat) (fails : Bool)
  /-- An idle connection is closed. -/
  | close (place : Nat)
deriving DecidableEq, Repr

namespace Pool

def empty (capacity : Nat) : Pool :=
  { capacity := capacity, opened := 0, idle := [], leases := [], returned := [], executed := [] }

def connections (pool : Pool) : List Connection :=
  pool.idle ++ pool.leases.map Lease.connection ++ pool.returned

def lease (call : Call) (connection : Connection) : Lease := ⟨connection, call, call.script⟩

def take (pool : Pool) (call : Call) (place : Nat) : Pool :=
  match pool.idle[place]? with
  | some connection =>
      { pool with
        idle := pool.idle.eraseIdx place
        leases := pool.leases ++ [lease call connection] }
  | none =>
      if pool.connections.length < pool.capacity then
        { pool with
          opened := pool.opened + 1
          leases := pool.leases ++ [lease call ⟨pool.opened, none⟩] }
      else pool

/-- What is left of a lease when its next statement, with others behind it, was answered. -/
def answered (connection : Connection) (call : Call) (statement : Statement)
    (rest : List Statement) : Answer → Lease
  | .done => ⟨connection.after statement, call, rest⟩
  | .refused => ⟨connection, call, []⟩
  | .unheard => ⟨connection.after statement, call, []⟩

/-- A call sends its next statement. It sends no more after one whose answer it does not have. -/
def send (pool : Pool) (place : Nat) (answer : Answer) : Pool :=
  match pool.leases[place]? with
  | some ⟨connection, call, statement :: rest⟩ =>
      { pool with
        leases := pool.leases.set place (answered connection call statement rest answer)
        executed := pool.executed ++ [⟨connection, call, statement⟩] }
  | _ => pool

def giveBack (pool : Pool) (place : Nat) : Pool :=
  match pool.leases[place]? with
  | some held =>
      { pool with
        leases := pool.leases.eraseIdx place
        returned := pool.returned ++ [held.connection] }
  | none => pool

def reset (pool : Pool) (place : Nat) (fails : Bool) : Pool :=
  match pool.returned[place]? with
  | some connection =>
      { pool with
        returned := pool.returned.eraseIdx place
        idle := if fails then pool.idle else pool.idle ++ [connection.after .resetTenant] }
  | none => pool

def close (pool : Pool) (place : Nat) : Pool := { pool with idle := pool.idle.eraseIdx place }

def step (pool : Pool) : PoolEvent → Pool
  | .take call place => pool.take call place
  | .send place answer => pool.send place answer
  | .giveBack place => pool.giveBack place
  | .reset place fails => pool.reset place fails
  | .close place => pool.close place

def run (pool : Pool) (events : List PoolEvent) : Pool := events.foldl step pool

end Pool

def Call.tenant? : Call → Option Uuid
  | .findActive tenant _ => some tenant
  | .acquire tenant => some tenant
  | _ => none

end SchoolNotice.Database
