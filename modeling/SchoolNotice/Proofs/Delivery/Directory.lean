import SchoolNotice.Proofs.Delivery.Cabinet
import SchoolNotice.Proofs.Delivery.Parallel

/-!
Offices with different directories. A directory is asked only for a context that is not complete, and all that
matters of it is what it finds: one that fails is as good as one that does not know the tenant. Only the events
tell the two apart.
-/

namespace SchoolNotice

structure Directory where
  profiles : List (Uuid × Profile)
  fails : Bool

namespace Directory

def find? (directory : Directory) (tenant : Uuid) : Option Profile :=
  if directory.fails then none
  else (directory.profiles.find? fun entry => entry.1 == tenant).map Prod.snd

/-- The context as the directory completes it. A context that is complete, or whose tenant is not found, stays as
it is. -/
def complete (directory : Directory) (tenant : Uuid) (context : Context) : Context :=
  if context.hasCompleteBranding then context
  else
    match directory.find? tenant with
    | some profile => context.withMissingSchoolFields profile
    | none => context

variable {directory : Directory} {tenant : Uuid} {context : Context}

theorem complete_of_complete (complete : context.hasCompleteBranding = true) :
    directory.complete tenant context = context :=
  if_pos complete

theorem complete_of_unfound (unfound : directory.find? tenant = none) :
    directory.complete tenant context = context := by
  rw [Directory.complete, unfound]
  split
  · rfl
  · rfl

end Directory

def Event.unexplained : Event → Event
  | .tenantLookupFailed tenant _ => .tenantUnknown tenant
  | event => event

namespace Office

def directory (office : Office) : Directory :=
  { profiles := office.profiles, fails := office.tenantsFail }

def elsewhere (directory : Directory) (lookups : Nat) (events : List Event) (office : Office) :
    Office :=
  { office with
    profiles := directory.profiles
    tenantsFail := directory.fails
    lookups := lookups
    events := events }

def withDirectory (directory : Directory) (office : Office) : Office :=
  office.elsewhere directory office.lookups office.events

/-- The office without its directory, and with events that do not tell why a tenant was not found. -/
def undirected (office : Office) : Office :=
  office.elsewhere { profiles := [], fails := false } office.lookups
    (office.events.map Event.unexplained)

/-- The call does not depend on the directory, the count of lookups or the events, and it only adds events. -/
def LeavesDirectory {α : Type} (call : Office → α × Office) : Prop :=
  ∀ office, ∃ more, ∀ directory lookups events,
    call (office.elsewhere directory lookups events) =
      ((call office).1, (call office).2.elsewhere directory lookups (events ++ more))

/-- The directory is in the cabinet. -/
theorem LeavesCabinet.leaves_directory {α : Type} {call : Office → α × Office}
    (leaves : LeavesCabinet call) : LeavesDirectory call := by
  intro office
  obtain ⟨more, own, answers⟩ := leaves.parts office
  refine ⟨more, fun directory lookups events => ?_⟩
  have there : (call office).2.elsewhere directory lookups (events ++ more) =
      (call office).2.withCabinet { (call office).2.cabinet with
        profiles := directory.profiles, tenantsFail := directory.fails
        lookups := lookups, events := events ++ more } := rfl
  rw [there, own]
  exact answers { office.cabinet with
    profiles := directory.profiles, tenantsFail := directory.fails
    lookups := lookups, events := events }

theorem answering_elsewhere (directory : Directory) (lookups : Nat) (events : List Event)
    (office : Office) (service : Collaborator) :
    (office.elsewhere directory lookups events).answering service =
      (office.answering service).elsewhere directory lookups events :=
  answering_changed office (elsewhere directory lookups events) (fun _ => rfl) (fun _ => rfl)
    service

theorem insert_log_leaves_directory (entry : LogEntry) : LeavesDirectory (insertLog entry) := by
  intro office
  refine ⟨[], fun directory lookups events => ?_⟩
  rw [List.append_nil]
  cases fails : office.logsFail with
  | true =>
      have also : (office.elsewhere directory lookups events).logsFail = true := fails
      rw [insert_log_failing entry fails, insert_log_failing entry also, answering_elsewhere]
  | false =>
      have also : (office.elsewhere directory lookups events).logsFail = false := fails
      rw [insert_log_kept entry fails, insert_log_kept entry also]
      exact Prod.ext rfl
        (answering_elsewhere directory lookups events (office.withEntry entry) .logs)

/-- The call leaves the directory as it is and asks it nothing. -/
theorem LeavesDirectory.keeps {α : Type} {call : Office → α × Office}
    (leaves : LeavesDirectory call) (office : Office) :
    (call office).2.directory = office.directory ∧
      (call office).2.lookups = office.lookups ∧
        ∃ more, (call office).2.events = office.events ++ more ∧
          ∀ directory lookups events, call (office.elsewhere directory lookups events) =
            ((call office).1, (call office).2.elsewhere directory lookups (events ++ more)) := by
  obtain ⟨more, answers⟩ := leaves office
  have own : call office = ((call office).1,
      (call office).2.elsewhere office.directory office.lookups (office.events ++ more)) :=
    answers office.directory office.lookups office.events
  refine ⟨?_, ?_, more, ?_, answers⟩
  · exact congrArg (fun pair => pair.2.directory) own
  · exact congrArg (fun pair => pair.2.lookups) own
  · exact congrArg (fun pair => pair.2.events) own

def unfoundEvent (tenant : Uuid) (office : Office) : Event :=
  if office.tenantsFail then .tenantLookupFailed tenant outage else .tenantUnknown tenant

theorem unexplained_unfound_event (tenant : Uuid) (office : Office) :
    (office.unfoundEvent tenant).unexplained = .tenantUnknown tenant := by
  unfold unfoundEvent
  split
  · rfl
  · rfl

def lookedUp (tenant : Uuid) (office : Office) : Office :=
  let next := (office.findProfile tenant).2
  match office.directory.find? tenant with
  | some _ => next
  | none => next.note (office.unfoundEvent tenant)

theorem find_of_failing {office : Office} (fails : office.tenantsFail = true) (tenant : Uuid) :
    office.directory.find? tenant = none :=
  if_pos fails

theorem find_of_working {office : Office} (works : ¬office.tenantsFail = true) (tenant : Uuid) :
    office.directory.find? tenant = office.profileOf? tenant :=
  if_neg works

/-- A context that is not complete is completed from the directory, unless the deliveries were cancelled. -/
theorem enrich_eq (heed : Bool) (tenant : Uuid) (context : Context) (office : Office) :
    Dispatcher.enrich heed tenant context office =
      if context.hasCompleteBranding then (.ok context, office)
      else if heed && office.cancelled then (.error .cancelled, office)
      else (.ok (office.directory.complete tenant context), office.lookedUp tenant) := by
  unfold Dispatcher.enrich
  by_cases complete : context.hasCompleteBranding = true
  · rw [if_pos complete, if_pos complete]
  · rw [if_neg complete, if_neg complete, Directory.complete, if_neg complete]
    congr 1
    have looked : office.findProfile tenant =
        ((office.findProfile tenant).1, (office.findProfile tenant).2) := rfl
    rw [find_profile_answer] at looked
    simp only [Services.findProfile, Services.note, lookedUp, unfoundEvent]
    rw [looked]
    by_cases fails : office.tenantsFail = true
    · rw [find_of_failing fails, if_pos fails, if_pos fails]
    · rw [find_of_working fails, if_neg fails, if_neg fails]
      cases office.profileOf? tenant with
      | none => rfl
      | some profile => rfl

theorem enrich_completes {heed : Bool} (tenant : Uuid) (context : Context) {office : Office}
    (going : ¬(heed && office.cancelled) = true) :
    (Dispatcher.enrich heed tenant context office).1 =
      .ok (office.directory.complete tenant context) := by
  rw [enrich_eq, if_neg going]
  split
  · next complete => rw [Directory.complete_of_complete complete]
  · rfl

/-- An office that has this directory, and the same office with another one. Its count of lookups is made from the
first one's, and its events tell the same. -/
inductive Redirected (own other : Directory) (count : Nat → Nat) (tell : Event → Event)
    (office : Office) : Office → Prop where
  | mk {events : List Event} (has : office.directory = own)
      (told : events.map tell = office.events.map tell) :
      Redirected own other count tell office
        (office.elsewhere other (count office.lookups) events)

section Redirected

variable {own other : Directory} {count : Nat → Nat} {tell : Event → Event}
  {office moved : Office} {tenant : Uuid}

theorem LeavesDirectory.parallel {α : Type} {call : Office → α × Office}
    (leaves : LeavesDirectory call) (redirected : Redirected own other count tell office moved) :
    Parallel (Redirected own other count tell) (call office) (call moved) := by
  cases redirected with
  | @mk events has told =>
      obtain ⟨stays, unasked, more, added, answers⟩ := leaves.keeps office
      rw [answers other (count office.lookups) events, ← unasked]
      refine ⟨rfl, .mk (stays.trans has) ?_⟩
      rw [added, List.map_append, List.map_append, told]

theorem redirected_selects (notice : Notice) (own other : Directory) (count : Nat → Nat)
    (tell : Event → Event) : SelectsAlike notice (Redirected own other count tell) where
  note event _ _ redirected :=
    ((note_leaves_cabinet event).leaves_directory.parallel redirected).2
  findActive redirected :=
    (find_active_leaves_cabinet notice.tenant notice.kind).leaves_directory.parallel redirected

theorem redirected_hands (own other : Directory) (count : Nat → Nat) (tell : Event → Event) :
    HandsAlike (Redirected own other count tell) where
  cancelled redirected := by
    cases redirected
    rfl
  now redirected := by
    cases redirected
    rfl
  post email _ _ redirected := (post_leaves_cabinet email).leaves_directory.parallel redirected
  collect email _ _ redirected :=
    (collect_leaves_cabinet email).leaves_directory.parallel redirected
  wait redirected := (wait_leaves_cabinet.leaves_directory.parallel redirected).2

theorem record_redirected (notice : Notice) (entry : LogEntry)
    (redirected : Redirected own other count tell office moved) :
    Redirected own other count tell (Dispatcher.record entry office)
      (Dispatcher.record entry moved) :=
  record_alike (redirected_hands own other count tell)
    (redirected_selects notice own other count tell).note redirected
    ((insert_log_leaves_directory entry).parallel redirected)

/-- For complete contexts the directory is not asked. -/
theorem complete_delivers (notice : Notice) (own other : Directory) (count : Nat → Nat)
    (tell : Event → Event) :
    DeliversAlike notice (fun context => context.hasCompleteBranding = true)
      (Redirected own other count tell) where
  toSelectsAlike := redirected_selects notice own other count tell
  toHandsAlike := redirected_hands own other count tell
  enrich heed context complete _ _ _ redirected := by
    unfold Dispatcher.enrich
    rw [if_pos complete, if_pos complete]
    exact ⟨rfl, redirected⟩
  record entry _ _ _ redirected := record_redirected notice entry redirected

theorem consulted_redirected (redirected : Redirected own other id tell office moved) :
    Redirected own other id tell office.consulted moved.consulted := by
  cases redirected with
  | mk has told => exact .mk has told

theorem find_profile_redirected (tenant : Uuid)
    (redirected : Redirected own other id tell office moved) :
    Redirected own other id tell (office.findProfile tenant).2 (moved.findProfile tenant).2 :=
  ((answering_leaves_cabinet .tenants).leaves_directory.parallel
    (consulted_redirected redirected)).2

theorem note_redirected {event told : Event} (same : tell event = tell told)
    (redirected : Redirected own other count tell office moved) :
    Redirected own other count tell (office.note event) (moved.note told) := by
  cases redirected with
  | mk has before =>
      refine .mk has ?_
      simp only [note, elsewhere, List.map_append, List.map_singleton, before, same]

theorem redirected_finds (finds : own.find? tenant = other.find? tenant)
    (redirected : Redirected own other count tell office moved) :
    office.directory.find? tenant = moved.directory.find? tenant := by
  cases redirected with
  | mk has told =>
      rw [has]
      exact finds

theorem looked_up_redirected (finds : own.find? tenant = other.find? tenant)
    (redirected : Redirected own other id Event.unexplained office moved) :
    Redirected own other id Event.unexplained (office.lookedUp tenant)
      (moved.lookedUp tenant) := by
  have looked := find_profile_redirected tenant redirected
  have told : (office.unfoundEvent tenant).unexplained = (moved.unfoundEvent tenant).unexplained :=
    (unexplained_unfound_event tenant office).trans (unexplained_unfound_event tenant moved).symm
  unfold lookedUp
  rw [← redirected_finds finds redirected]
  cases office.directory.find? tenant with
  | none => exact note_redirected told looked
  | some profile => exact looked

theorem enrich_redirected (finds : own.find? tenant = other.find? tenant) (heed : Bool)
    (context : Context)
    (redirected : Redirected own other id Event.unexplained office moved) :
    Parallel (Redirected own other id Event.unexplained)
      (Dispatcher.enrich heed tenant context office)
      (Dispatcher.enrich heed tenant context moved) := by
  have cancelled : office.cancelled = moved.cancelled :=
    (redirected_hands own other id Event.unexplained).cancelled redirected
  have completed : office.directory.complete tenant context =
      moved.directory.complete tenant context := by
    unfold Directory.complete
    rw [redirected_finds finds redirected]
  rw [enrich_eq, enrich_eq, ← cancelled, completed]
  split
  · exact ⟨rfl, redirected⟩
  · split
    · exact ⟨rfl, redirected⟩
    · exact ⟨rfl, looked_up_redirected finds redirected⟩

/-- Directories that find the same profile serve a notice alike. -/
theorem finding_delivers {notice : Notice}
    (finds : own.find? notice.tenant = other.find? notice.tenant) :
    DeliversAlike notice (fun _ => True) (Redirected own other id Event.unexplained) where
  toSelectsAlike := redirected_selects notice own other id Event.unexplained
  toHandsAlike := redirected_hands own other id Event.unexplained
  enrich heed context _ _ _ _ redirected := enrich_redirected finds heed context redirected
  record entry _ _ _ redirected := record_redirected notice entry redirected

end Redirected

end Office

end SchoolNotice
