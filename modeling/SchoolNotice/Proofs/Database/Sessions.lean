import Mathlib.Data.List.Perm.Basic
import Mathlib.Data.List.Perm.Subperm
import SchoolNotice.Database.Pool
import SchoolNotice.Proofs.Tenant.Uuid

/-!
The sessions of pooled connections. A connection is in one place only, and while it is idle its session is set to no
tenant; so a call finds no other tenant's setting on the connection that it takes, and what it reads of the templates
it reads under the tenant that it set itself.
-/

namespace SchoolNotice.Database

namespace Connection

def Clear (connection : Connection) : Prop :=
  connection.session = none ∨ connection.session = some ""

/-- The session is set to no tenant but that of the call. -/
def Serves (connection : Connection) (call : Call) : Prop :=
  connection.Clear ∨ ∃ tenant, call.tenant? = some tenant ∧ connection.session = some tenant.text

/-- If the statement reads templates, the session is set to their tenant. -/
def Admits (connection : Connection) (statement : Statement) : Prop :=
  ∀ tenant kind, statement = .templates tenant kind → connection.session = some tenant.text

def AdmitsAll (connection : Connection) : List Statement → Prop
  | [] => True
  | statement :: rest => connection.Admits statement ∧ (connection.after statement).AdmitsAll rest

theorem number_after (connection : Connection) (statement : Statement) :
    (connection.after statement).number = connection.number := by
  cases statement <;> rfl

theorem clear_after_reset (connection : Connection) : (connection.after .resetTenant).Clear :=
  .inr rfl

end Connection

namespace Call

def Owns (call : Call) (statement : Statement) : Prop :=
  ∀ tenant, statement = .setTenant tenant → call.tenant? = some tenant

theorem script_owned (call : Call) : ∀ statement ∈ call.script, call.Owns statement := by
  intro statement inside tenant same
  subst same
  cases call with
  | findActive tenant kind => simp_all [script, tenant?]
  | acquire tenant => simp_all [script, tenant?]
  | findProfile tenant => simp [script] at inside
  | insert entry => simp [script] at inside
  | migrate => simp [script] at inside

/-- Whatever the session of a connection is set to, a call sets it before it reads templates. -/
theorem script_admitted (call : Call) (connection : Connection) :
    connection.AdmitsAll call.script := by
  cases call with
  | findActive tenant kind =>
      simp [script, Connection.AdmitsAll, Connection.Admits, Connection.after]
  | _ => simp [script, migrations, Connection.AdmitsAll, Connection.Admits]

end Call

theorem serves_after {connection : Connection} {call : Call} {statement : Statement}
    (serves : connection.Serves call) (owns : call.Owns statement) :
    (connection.after statement).Serves call := by
  cases statement with
  | setTenant tenant => exact .inr ⟨tenant, owns tenant rfl, rfl⟩
  | resetTenant => exact .inl connection.clear_after_reset
  | _ => exact serves

/-- A lease under which only the call's own tenant is set, now and by what is still to be sent. -/
structure Lease.Safe (lease : Lease) : Prop where
  serves : lease.connection.Serves lease.call
  admits : lease.connection.AdmitsAll lease.pending
  owns : ∀ statement ∈ lease.pending, lease.call.Owns statement

structure Execution.Safe (execution : Execution) : Prop where
  serves : execution.connection.Serves execution.call
  admits : execution.connection.Admits execution.statement

section Leases

variable {connection : Connection} {call : Call} {statement : Statement} {rest : List Statement}

theorem lease_safe (clear : connection.Clear) (call : Call) : (Pool.lease call connection).Safe where
  serves := .inl clear
  admits := call.script_admitted connection
  owns := call.script_owned

theorem ended_safe (serves : connection.Serves call) : Lease.Safe ⟨connection, call, []⟩ where
  serves := serves
  admits := trivial
  owns _ inside := absurd inside List.not_mem_nil

theorem answered_safe (safe : Lease.Safe ⟨connection, call, statement :: rest⟩) (answer : Answer) :
    (Pool.answered connection call statement rest answer).Safe := by
  have owned := safe.owns statement List.mem_cons_self
  have after := serves_after safe.serves owned
  cases answer with
  | done =>
      exact ⟨after, safe.admits.2, fun other inside => safe.owns other (List.mem_cons_of_mem _ inside)⟩
  | refused => exact ended_safe safe.serves
  | unheard => exact ended_safe after

theorem execution_safe (safe : Lease.Safe ⟨connection, call, statement :: rest⟩) :
    Execution.Safe ⟨connection, call, statement⟩ :=
  ⟨safe.serves, safe.admits.1⟩

theorem number_answered (answer : Answer) :
    (Pool.answered connection call statement rest answer).connection.number = connection.number := by
  cases answer with
  | refused => rfl
  | _ => exact connection.number_after statement

end Leases

theorem perm_taken {α β : Type} (view : α → β) {list : List α} {place : Nat} {found : α}
    (at_place : list[place]? = some found) :
    List.Perm (view found :: (list.eraseIdx place).map view) (list.map view) := by
  obtain ⟨within, same⟩ := List.getElem?_eq_some_iff.mp at_place
  subst same
  exact (List.getElem_cons_eraseIdx_perm within).map view

/-- What is taken out of one list and put at the end of the next stays among the two. -/
theorem perm_moved {α : Type} {moved : α} {rest list : List α}
    (taken : List.Perm (moved :: rest) list) (others : List α) :
    List.Perm (rest ++ (others ++ [moved])) (list ++ others) := by
  rw [← List.append_assoc]
  exact (List.perm_append_singleton moved (rest ++ others)).trans (taken.append_right others)

/-- What is taken out of the last list and put at the end of the first stays among the three. -/
theorem perm_back {α : Type} {moved : α} {rest list : List α}
    (taken : List.Perm (moved :: rest) list) (first others : List α) :
    List.Perm (first ++ [moved] ++ others ++ rest) (first ++ others ++ list) := by
  have across : List.Perm ([moved] ++ others) (others ++ [moved]) := List.perm_append_comm
  calc
    List.Perm (first ++ [moved] ++ others ++ rest) (first ++ (others ++ [moved]) ++ rest) := by
      rw [List.append_assoc first]
      exact (across.append_left first).append_right rest
    List.Perm _ (first ++ others ++ list) := by
      rw [← List.append_assoc, List.append_assoc (first ++ others)]
      exact taken.append_left (first ++ others)

structure Numbered (opened : Nat) (numbers : List Nat) : Prop where
  below : ∀ number ∈ numbers, number < opened
  distinct : numbers.Nodup

theorem numbered_of_subperm {opened : Nat} {numbers others : List Nat}
    (numbered : Numbered opened numbers) (fewer : others.Subperm numbers) :
    Numbered opened others where
  below number inside := numbered.below number (fewer.subset inside)
  distinct := by
    obtain ⟨part, perm, sublist⟩ := fewer
    exact perm.nodup_iff.mp (sublist.nodup numbered.distinct)

theorem numbered_opened {opened : Nat} {numbers others : List Nat}
    (numbered : Numbered opened numbers) (one_more : List.Perm others (opened :: numbers)) :
    Numbered (opened + 1) others := by
  constructor
  · intro number inside
    rcases List.mem_cons.mp (one_more.subset inside) with rfl | old
    · exact Nat.lt_succ_self number
    · exact Nat.lt_succ_of_lt (numbered.below number old)
  · rw [one_more.nodup_iff, List.nodup_cons]
    exact ⟨fun inside => Nat.lt_irrefl _ (numbered.below _ inside), numbered.distinct⟩

namespace Pool

def numbers (pool : Pool) : List Nat := pool.connections.map Connection.number

theorem numbers_eq (pool : Pool) : pool.numbers =
    pool.idle.map Connection.number ++ pool.leases.map (fun lease => lease.connection.number) ++
      pool.returned.map Connection.number := by
  rw [numbers, connections, List.map_append, List.map_append, List.map_map]
  rfl

structure Orderly (pool : Pool) : Prop where
  numbered : Numbered pool.opened pool.numbers
  idle : ∀ connection ∈ pool.idle, connection.Clear
  leases : ∀ lease ∈ pool.leases, lease.Safe
  executed : ∀ execution ∈ pool.executed, execution.Safe

theorem empty_orderly (capacity : Nat) : (empty capacity).Orderly where
  numbered := ⟨fun _ inside => absurd inside List.not_mem_nil, List.nodup_nil⟩
  idle _ inside := absurd inside List.not_mem_nil
  leases _ inside := absurd inside List.not_mem_nil
  executed _ inside := absurd inside List.not_mem_nil

variable {pool : Pool} (orderly : pool.Orderly)
include orderly

theorem take_orderly (call : Call) (place : Nat) : (pool.take call place).Orderly := by
  unfold take
  split
  · next connection found =>
    have clear := orderly.idle connection (List.mem_of_getElem? found)
    refine ⟨?numbered, ?idle, ?leases, orderly.executed⟩
    case numbered =>
      apply numbered_of_subperm orderly.numbered
      have moved := perm_moved (perm_taken Connection.number found)
        (pool.leases.map fun lease => lease.connection.number)
      rw [numbers_eq, numbers_eq, List.map_append]
      exact (moved.append_right _).subperm
    case idle =>
      intro other inside
      exact orderly.idle other (List.mem_of_mem_eraseIdx inside)
    case leases =>
      intro lease inside
      rcases List.mem_append.mp inside with old | new
      · exact orderly.leases lease old
      · rw [List.mem_singleton.mp new]
        exact lease_safe clear call
  · split
    · refine ⟨?numbered, orderly.idle, ?leases, orderly.executed⟩
      case numbered =>
        apply numbered_opened orderly.numbered
        rw [numbers_eq, numbers_eq, List.map_append, ← List.append_assoc]
        exact (List.perm_append_singleton _ _).append_right _
      case leases =>
        intro lease inside
        rcases List.mem_append.mp inside with old | new
        · exact orderly.leases lease old
        · rw [List.mem_singleton.mp new]
          exact lease_safe (.inl rfl) call
    · exact orderly

theorem send_orderly (place : Nat) (answer : Answer) : (pool.send place answer).Orderly := by
  unfold send
  split
  · next connection call statement rest found =>
    have safe := orderly.leases _ (List.mem_of_getElem? found)
    refine ⟨?numbered, orderly.idle, ?leases, ?executed⟩
    case numbered =>
      have same : (pool.leases.set place (answered connection call statement rest answer)).map
          (fun lease => lease.connection.number) =
            pool.leases.map fun lease => lease.connection.number := by
        obtain ⟨within, held⟩ := List.getElem?_eq_some_iff.mp found
        have placed : place < (pool.leases.map fun lease => lease.connection.number).length := by
          rwa [List.length_map]
        have still := List.set_getElem_self placed
        rw [List.getElem_map, held] at still
        rw [List.map_set, number_answered]
        exact still
      have numbered := orderly.numbered
      rw [numbers_eq, ← same] at numbered
      rw [numbers_eq]
      exact numbered
    case leases =>
      intro lease inside
      rcases List.mem_or_eq_of_mem_set inside with old | new
      · exact orderly.leases lease old
      · rw [new]
        exact answered_safe safe answer
    case executed =>
      intro execution inside
      rcases List.mem_append.mp inside with old | new
      · exact orderly.executed execution old
      · rw [List.mem_singleton.mp new]
        exact execution_safe safe
  · exact orderly

theorem give_back_orderly (place : Nat) : (pool.giveBack place).Orderly := by
  unfold giveBack
  split
  · next held found =>
    refine ⟨?numbered, orderly.idle, ?leases, orderly.executed⟩
    case numbered =>
      apply numbered_of_subperm orderly.numbered
      have moved := perm_moved (perm_taken (fun lease => lease.connection.number) found)
        (pool.returned.map Connection.number)
      rw [numbers_eq, numbers_eq, List.map_append, List.append_assoc, List.append_assoc]
      exact (moved.append_left _).subperm
    case leases =>
      intro lease inside
      exact orderly.leases lease (List.mem_of_mem_eraseIdx inside)
  · exact orderly

theorem reset_orderly (place : Nat) (fails : Bool) : (pool.reset place fails).Orderly := by
  unfold reset
  split
  · next connection found =>
    refine ⟨?numbered, ?idle, orderly.leases, orderly.executed⟩
    case numbered =>
      apply numbered_of_subperm orderly.numbered
      have taken := perm_taken Connection.number found
      rw [numbers_eq, numbers_eq]
      cases fails with
      | true =>
          have fewer := (List.sublist_cons_self _ _).subperm.trans taken.subperm
          exact (List.subperm_append_left _).mpr fewer
      | false =>
          have back := perm_back taken (pool.idle.map Connection.number)
            (pool.leases.map fun lease => lease.connection.number)
          simp only [Bool.false_eq_true, if_false, List.map_append, List.map_singleton,
            connection.number_after]
          exact back.subperm
    case idle =>
      intro other inside
      cases fails with
      | true => exact orderly.idle other inside
      | false =>
          rcases List.mem_append.mp inside with old | new
          · exact orderly.idle other old
          · rw [List.mem_singleton.mp new]
            exact connection.clear_after_reset
  · exact orderly

theorem close_orderly (place : Nat) : (pool.close place).Orderly := by
  refine ⟨?numbered, ?idle, orderly.leases, orderly.executed⟩
  case numbered =>
    apply numbered_of_subperm orderly.numbered
    rw [numbers_eq, numbers_eq]
    have fewer := ((pool.idle.eraseIdx_sublist place).map Connection.number).append_right
      (pool.leases.map fun lease => lease.connection.number)
    exact (fewer.append_right _).subperm
  case idle =>
    intro other inside
    exact orderly.idle other (List.mem_of_mem_eraseIdx inside)

theorem step_orderly (event : PoolEvent) : (pool.step event).Orderly := by
  cases event with
  | take call place => exact take_orderly orderly call place
  | send place answer => exact send_orderly orderly place answer
  | giveBack place => exact give_back_orderly orderly place
  | reset place fails => exact reset_orderly orderly place fails
  | close place => exact close_orderly orderly place

theorem run_orderly (events : List PoolEvent) : (pool.run events).Orderly := by
  induction events generalizing pool with
  | nil => exact orderly
  | cons event rest induction => exact induction (step_orderly orderly event)

omit orderly

/-- Whatever calls share a pool and however they fail or are dropped: templates are read on a connection whose session
is set to the tenant that they are asked for; no open connection is in two places, and so none with two calls; the
session of an idle connection is set to no tenant; and no call ever runs under the identifier of another's tenant. -/
theorem sessions_apart (capacity : Nat) (events : List PoolEvent) :
    let pool := (empty capacity).run events
    (∀ execution ∈ pool.executed, ∀ tenant kind, execution.statement = .templates tenant kind →
        execution.connection.session = some tenant.text) ∧
      (pool.connections.map Connection.number).Nodup ∧
      (∀ connection ∈ pool.idle, connection.session = none ∨ connection.session = some "") ∧
      ∀ execution ∈ pool.executed, ∀ tenant : Uuid,
        execution.connection.session = some tenant.text → execution.call.tenant? = some tenant := by
  intro pool
  have orderly : pool.Orderly := run_orderly (empty_orderly capacity) events
  refine ⟨?reads, orderly.numbered.distinct, orderly.idle, ?own⟩
  case reads =>
    intro execution inside
    exact (orderly.executed execution inside).admits
  case own =>
    intro execution inside tenant set_to
    rcases (orderly.executed execution inside).serves with (unset | blank) | ⟨own, called, own_set⟩
    · rw [unset] at set_to
      cases set_to
    · rw [blank] at set_to
      exact absurd (Option.some.inj set_to).symm tenant.text_ne_empty
    · rw [set_to] at own_set
      rw [called, Uuid.text_injective (Option.some.inj own_set)]

end Pool

def Server.answer (server : Server) (statement : Statement) : Answer :=
  if server.refuses statement then .refused else .done

namespace Pool

/-- What happens to a pool in which there is one call only, and which is not dropped. -/
def alone (server : Server) (call : Call) : List PoolEvent :=
  .take call 0 :: call.script.map (fun statement => .send 0 (server.answer statement)) ++
    [.giveBack 0, .reset 0 (server.refuses .resetTenant)]

theorem run_cons (pool : Pool) (event : PoolEvent) (events : List PoolEvent) :
    pool.run (event :: events) = (pool.step event).run events :=
  rfl

theorem run_append (pool : Pool) (events others : List PoolEvent) :
    pool.run (events ++ others) = (pool.run events).run others :=
  List.foldl_append

section Alone

variable {pool : Pool} {connection : Connection} {call : Call}

theorem send_only {statement : Statement} {rest : List Statement}
    (held : pool.leases = [⟨connection, call, statement :: rest⟩]) (answer : Answer) :
    (pool.send 0 answer).leases = [answered connection call statement rest answer] ∧
      (pool.send 0 answer).executed = pool.executed ++ [⟨connection, call, statement⟩] := by
  rw [send, held]
  exact ⟨rfl, rfl⟩

theorem run_ended (ended : pool.leases = [⟨connection, call, []⟩]) (answers : List Answer) :
    pool.run (answers.map (.send 0)) = pool := by
  induction answers with
  | nil => rfl
  | cons answer rest induction =>
      have still : pool.send 0 answer = pool := by
        rw [send, ended]
        rfl
      rw [List.map_cons, run_cons, step, still]
      exact induction

/-- A call that is not dropped sends its statements up to the first one that is refused. -/
theorem statements_sent (server : Server) {statements : List Statement}
    (held : pool.leases = [⟨connection, call, statements⟩]) :
    (pool.run (statements.map fun statement => .send 0 (server.answer statement))).executed.map
        Execution.statement =
      pool.executed.map Execution.statement ++ (server.send statements).1 := by
  induction statements generalizing pool connection with
  | nil => exact (List.append_nil _).symm
  | cons statement rest induction =>
      obtain ⟨left, done⟩ := send_only held (server.answer statement)
      rw [List.map_cons, run_cons, step, Server.send]
      by_cases refused : server.refuses statement
      · have answer : server.answer statement = .refused := if_pos refused
        rw [answer] at left done ⊢
        have ended := run_ended left (rest.map server.answer)
        rw [List.map_map] at ended
        rw [if_pos refused]
        apply (congrArg (fun pool => pool.executed.map Execution.statement) ended).trans
        rw [done, List.map_append]
        rfl
      · have answer : server.answer statement = .done := if_neg refused
        rw [answer] at left done ⊢
        rw [if_neg refused, induction left, done, List.map_append, List.append_assoc]
        rfl

theorem executed_give_back (pool : Pool) (place : Nat) :
    (pool.giveBack place).executed = pool.executed := by
  unfold giveBack
  split <;> rfl

theorem executed_reset (pool : Pool) (place : Nat) (fails : Bool) :
    (pool.reset place fails).executed = pool.executed := by
  unfold reset
  split <;> rfl

/-- A call alone, with the reset at its end, sends what the server says that it does. -/
theorem alone_statements (server : Server) (call : Call) {capacity : Nat} (room : 0 < capacity) :
    ((empty capacity).run (alone server call)).executed.map Execution.statement ++ [.resetTenant] =
      (server.carryOut call).2 := by
  have taken : ((empty capacity).step (.take call 0)).leases = [lease call ⟨0, none⟩] :=
    congrArg Pool.leases (if_pos room)
  have unsent : ((empty capacity).step (.take call 0)).executed = [] :=
    congrArg Pool.executed (if_pos room)
  have ended (pool : Pool) (fails : Bool) :
      (pool.run [.giveBack 0, .reset 0 fails]).executed = pool.executed := by
    rw [run_cons, run_cons, step, step, run, List.foldl_nil, executed_reset, executed_give_back]
  rw [alone, run_append, ended, run_cons, statements_sent server taken, unsent]
  rfl

end Alone

end Pool

end SchoolNotice.Database
