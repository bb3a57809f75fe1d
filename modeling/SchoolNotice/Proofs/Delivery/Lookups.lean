import Mathlib.Algebra.GroupWithZero.Nat
import SchoolNotice.Proofs.Delivery.Directory
import SchoolNotice.Proofs.Delivery.Exits
import SchoolNotice.Proofs.Delivery.Interleaving

/-!
How often deliveries ask the directory. They ask it once for each context that is not complete, unless they are
cancelled before. For a batch that is known once it is over: if nothing has been cancelled by then, each of its
deliveries has asked.
-/

namespace SchoolNotice

def Seat.lookups : Seat → Nat
  | .fresh recipient => recipient.context.lookups
  | .begun _ => 0

def lookupsFor (recipients : List Recipient) : Nat :=
  (recipients.map fun recipient => recipient.context.lookups).sum

def lookupsIn (seats : List Seat) : Nat := (seats.map Seat.lookups).sum

theorem lookups_in_fresh (recipients : List Recipient) :
    lookupsIn (recipients.map .fresh) = lookupsFor recipients := by
  rw [lookupsIn, lookupsFor, List.map_map]
  rfl

theorem lookups_in_cons (seat : Seat) (seats : List Seat) :
    lookupsIn (seat :: seats) = seat.lookups + lookupsIn seats := by
  rw [lookupsIn, List.map_cons, List.sum_cons, lookupsIn]

namespace Buffer

def lookups (buffer : Buffer) : Nat := lookupsIn buffer.seats + lookupsFor buffer.rest

theorem lookups_fill (room : Nat) (buffer : Buffer) :
    (buffer.fill room).lookups = buffer.lookups := by
  let free := room - buffer.seats.length
  have parted : lookupsFor buffer.rest =
      lookupsFor (buffer.rest.take free) + lookupsFor (buffer.rest.drop free) := by
    rw [lookupsFor, lookupsFor, lookupsFor, ← List.sum_append, ← List.map_append,
      List.take_append_drop]
  have seated : lookupsIn (buffer.fill room).seats =
      lookupsIn buffer.seats + lookupsFor (buffer.rest.take free) := by
    rw [← lookups_in_fresh, lookupsIn, lookupsIn, lookupsIn, ← List.sum_append, ← List.map_append]
    rfl
  rw [lookups, lookups, seated, parted, Nat.add_assoc]
  rfl

end Buffer

namespace Office

theorem LeavesCabinet.keeps_lookups {α : Type} {call : Office → α × Office}
    (leaves : LeavesCabinet call) (office : Office) :
    (call office).2.lookups = office.lookups := by
  obtain ⟨more, own, _⟩ := leaves.parts office
  exact congrArg Cabinet.lookups own

theorem lookups_find_profile (tenant : Uuid) (office : Office) :
    (office.findProfile tenant).2.lookups = office.lookups + 1 :=
  congrArg Books.lookups (office.consulted.books_answering .tenants)

theorem lookups_looked_up (tenant : Uuid) (office : Office) :
    (office.lookedUp tenant).lookups = office.lookups + 1 := by
  unfold lookedUp
  cases office.directory.find? tenant with
  | none => exact lookups_find_profile tenant office
  | some profile => exact lookups_find_profile tenant office

/-- Deliveries that have been cancelled stay so. -/
theorem cancelled_outlasts : Outlasts fun office : Office => office.cancelled = true where
  note _ _ stopped := stopped
  findProfile tenant office stopped := (office.grew_find_profile tenant).cancelled stopped
  findActive tenant kind office stopped := (office.grew_find_active tenant kind).cancelled stopped
  post email office stopped := by
    rcases office.post_replied email with ⟨_, _, grew⟩ | ⟨_, _, _, grew, _⟩
    · exact grew.cancelled stopped
    · exact grew.cancelled stopped
  collect email office stopped := by
    obtain ⟨_, _, grew⟩ := office.collect_replied email
    exact grew.cancelled stopped
  insertLog entry office stopped := by
    rcases office.insert_log_grew entry with ⟨_, grew⟩ | ⟨_, grew⟩
    · exact grew.cancelled stopped
    · exact grew.cancelled stopped
  wait stopped := (grew_wait _).cancelled stopped

/-- If nothing has been cancelled by the end, nothing was at the beginning, and the directory was asked so often
between. -/
def Asks (count : Nat) (before after : Office) : Prop :=
  after.cancelled = false → before.cancelled = false ∧ after.lookups = before.lookups + count

theorem Asks.refl (office : Office) : Asks 0 office office := fun going => ⟨going, rfl⟩

theorem Asks.trans {count more : Nat} {before middle after : Office}
    (first : Asks count before middle) (second : Asks more middle after) :
    Asks (count + more) before after := by
  intro going
  obtain ⟨between, later⟩ := second going
  obtain ⟨earlier, sooner⟩ := first between
  exact ⟨earlier, by rw [later, sooner, Nat.add_assoc]⟩

/-- What asks the directory so often unless it is cancelled at the beginning. -/
theorem asks_of_kept {count : Nat} {before after : Office}
    (kept : before.cancelled = true → after.cancelled = true)
    (asked : before.cancelled = false → after.lookups = before.lookups + count) :
    Asks count before after := by
  intro going
  have uncancelled : before.cancelled = false := by
    cases stopped : before.cancelled with
    | false => rfl
    | true => cases going.symm.trans (kept stopped)
  exact ⟨uncancelled, asked uncancelled⟩

theorem asks_wait (office : Office) : Asks 0 office office.wait := by
  apply asks_of_kept
  · exact cancelled_outlasts.wait
  · intro going
    exact congrArg Books.lookups office.books_wait

end Office

namespace Dispatcher

open Office (Asks)

section Single

variable (dispatcher : Dispatcher) (notice : Notice) (context : Context) (recipient : Recipient)
  {office : Office}

theorem lookups_enrich (tenant : Uuid) {heed : Bool} (going : ¬(heed && office.cancelled) = true) :
    (enrich heed tenant context office).2.lookups = office.lookups + context.lookups := by
  rw [Office.enrich_eq, Context.lookups, if_neg going]
  split
  · rfl
  · exact office.lookups_looked_up tenant

variable (office) in
theorem lookups_compose (heed : Bool) :
    (dispatcher.compose heed notice context office).2.lookups = office.lookups := by
  have unasked : (dispatcher.select notice office).2.lookups = office.lookups :=
    (Office.find_active_leaves_cabinet notice.tenant notice.kind).keeps_lookups office
  unfold compose
  split
  · rfl
  · rcases selected : dispatcher.select notice office with ⟨error | template, next⟩
    · rwa [selected] at unasked
    · rwa [selected] at unasked

theorem lookups_prepare {heed : Bool} (going : ¬(heed && office.cancelled) = true) :
    (dispatcher.prepare heed notice context office).2.lookups =
      office.lookups + context.lookups := by
  have asked := lookups_enrich context notice.tenant going
  unfold prepare
  rcases enriched : enrich heed notice.tenant context office with ⟨error | completed, next⟩
  · rwa [enriched] at asked
  · rw [enriched] at asked
    exact (lookups_compose dispatcher notice completed next heed).trans asked

theorem lookups_conclude (source : Source) (email : Email) (reply : Reply) :
    (conclude notice source email reply office).2.lookups = office.lookups := by
  obtain ⟨entries, events, added⟩ := conclude_adds notice office source email reply
  exact congrArg Books.lookups added

theorem lookups_preview :
    (dispatcher.preview notice context office).2.lookups = office.lookups + context.lookups := by
  -- A preview does not heed that deliveries have been cancelled.
  have asked := @lookups_prepare dispatcher notice context office false nofun
  unfold preview
  rcases prepared : dispatcher.prepare false notice context office with ⟨error | filled, next⟩
  · rwa [prepared] at asked
  · rwa [prepared] at asked

theorem lookups_start (going : office.cancelled = false) :
    (dispatcher.start notice recipient office).2.lookups =
      office.lookups + recipient.context.lookups := by
  have heeding : ¬(true && office.cancelled) = true := Bool.eq_false_iff.mp going
  have asked := lookups_prepare dispatcher notice recipient.context heeding
  have started := start_cases dispatcher notice recipient office
  generalize dispatcher.start notice recipient office = begun at started ⊢
  cases started with
  | failed prepared | stopped prepared =>
      rw [prepared] at asked
      exact asked
  | @underway source rendered email next last prepared going addressed posted =>
      rw [prepared] at asked
      have handed := (Office.post_leaves_cabinet email).keeps_lookups next
      rw [show next.post email = (none, last) from posted] at handed
      exact handed.trans asked
  | @answered source rendered email next last reply prepared going addressed posted =>
      rw [prepared] at asked
      have handed := (Office.post_leaves_cabinet email).keeps_lookups next
      rw [show next.post email = (some reply, last) from posted] at handed
      exact (lookups_conclude notice source email reply).trans (handed.trans asked)

theorem lookups_land (standing : Standing) :
    (land notice standing office).2.lookups = office.lookups := by
  cases standing with
  | settled outcome => rfl
  | waiting source email =>
      have replied := (Office.collect_leaves_cabinet email).keeps_lookups office
      unfold land
      dsimp only
      split
      · rfl
      · exact (lookups_conclude notice source email _).trans replied

theorem lookups_dispatch (going : office.cancelled = false) :
    (dispatcher.dispatch notice recipient office).2.lookups =
      office.lookups + recipient.context.lookups := by
  have asked := lookups_start dispatcher notice recipient going
  unfold dispatch
  rcases started : dispatcher.start notice recipient office with ⟨⟨source, email⟩ | outcome, next⟩
  · rw [started] at asked
    have waited : next.wait.lookups = next.lookups := congrArg Books.lookups next.books_wait
    exact (lookups_land notice _).trans (waited.trans asked)
  · rw [started] at asked
    exact asked

end Single

section Many

variable (dispatcher : Dispatcher) (notice : Notice) (office : Office)

theorem start_asks (recipient : Recipient) :
    Asks recipient.context.lookups office (dispatcher.start notice recipient office).2 :=
  Office.asks_of_kept
    (fun stopped => start_keeps Office.cancelled_outlasts dispatcher notice stopped recipient)
    (lookups_start dispatcher notice recipient)

theorem land_asks (standing : Standing) : Asks 0 office (land notice standing office).2 :=
  Office.asks_of_kept
    (fun stopped => land_keeps Office.cancelled_outlasts notice stopped standing)
    (fun _ => lookups_land notice standing)

theorem begin_all_asks (seats : List Seat) :
    Asks (lookupsIn seats) office (dispatcher.beginAll notice seats office).2 := by
  induction seats generalizing office with
  | nil => exact .refl office
  | cons seat rest induction =>
      rw [lookups_in_cons]
      cases seat with
      | begun standing => exact (Office.Asks.refl office).trans (induction office)
      | fresh recipient =>
          exact (start_asks dispatcher notice office recipient).trans (induction _)

theorem lookups_in_begun (seats : List Seat) :
    lookupsIn (dispatcher.beginAll notice seats office).1 = 0 := by
  induction seats generalizing office with
  | nil => rfl
  | cons seat rest induction =>
      cases seat with
      | begun standing => simp only [beginAll, lookups_in_cons, induction, Seat.lookups]
      | fresh recipient => simp only [beginAll, lookups_in_cons, induction, Seat.lookups]

/-- The lookups that are to be made are made, or they are still to be made for the seats behind. -/
theorem pass_front_asks (front : Seat) (behind : List Seat) :
    let passed := dispatcher.passFront notice front behind office
    ∃ asked, Asks asked office passed.2.2 ∧
      asked + lookupsIn passed.2.1 = lookupsIn (front :: behind) := by
  dsimp only
  rw [lookups_in_cons]
  cases front with
  | begun standing => exact ⟨0, land_asks notice office standing, rfl⟩
  | fresh recipient =>
      have started := start_asks dispatcher notice office recipient
      simp only [passFront]
      rcases begun : dispatcher.start notice recipient office with
        ⟨⟨source, email⟩ | outcome, next⟩
      · rw [begun] at started
        have others := begin_all_asks dispatcher notice next behind
        have waited := (started.trans others).trans (Office.asks_wait _)
        refine ⟨_, waited.trans (land_asks notice _ (.waiting source email)), ?_⟩
        exact congrArg (_ + ·) (lookups_in_begun dispatcher notice next behind)
      · rw [begun] at started
        exact ⟨_, started, rfl⟩

theorem drain_asks (buffer : Buffer) :
    Asks buffer.lookups office (dispatcher.drain notice buffer office).2 := by
  induction buffer, office using @drain_induction Office _ dispatcher notice with
  | @empty buffer rest office filled =>
      have seat : 1 ≤ dispatcher.room := Nat.le_max_right dispatcher.concurrency 1
      have whole := buffer.lookups_fill dispatcher.room
      rw [filled, Flight.rest_of_no_front seat filled] at whole
      rw [drain_empty filled, ← whole]
      exact .refl office
  | @front buffer front behind rest office filled induction =>
      obtain ⟨asked, asks, left⟩ := pass_front_asks dispatcher notice office front behind
      have whole := buffer.lookups_fill dispatcher.room
      rw [filled] at whole
      rw [drain_front filled, ← whole, Buffer.lookups, ← left, Nat.add_assoc]
      exact asks.trans induction

theorem batch_asks (recipients : List Recipient) :
    Asks (lookupsFor recipients) office (dispatcher.batch notice recipients office).2 := by
  have drained := drain_asks dispatcher notice office ⟨[], recipients⟩
  rw [Buffer.lookups, lookupsIn, List.map_nil, List.sum_nil, Nat.zero_add] at drained
  exact drained

variable {office}

theorem lookups_batch (going : office.cancelled = false) {recipients : List Recipient}
    (through : recipients.length ≤ 1 ∨
      (dispatcher.batch notice recipients office).2.cancelled = false) :
    (dispatcher.batch notice recipients office).2.lookups =
      office.lookups + lookupsFor recipients := by
  rcases through with few | uncancelled
  · match recipients, few with
    | [], _ =>
        rw [batch, drain_nothing]
        rfl
    | [recipient], _ =>
        rw [batch, drain_one]
        exact lookups_dispatch dispatcher notice recipient going
  · exact (batch_asks dispatcher notice office recipients uncancelled).2

end Many

end Dispatcher

end SchoolNotice
