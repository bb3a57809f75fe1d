import SchoolNotice.Proofs.Delivery.Books

/-!
What most calls of an office leave alone. The directory is asked by one call only, entries are logged by one
other, and no call reads the events. To the rest an office is the same whatever its cabinet holds of these.
-/

namespace SchoolNotice

namespace Office

/-- The log, the directory and the events of an office, with their switches and the count of lookups. -/
structure Cabinet where
  logsFail : Bool
  logs : List LogEntry
  profiles : List (Uuid × Profile)
  tenantsFail : Bool
  lookups : Nat
  events : List Event

def Cabinet.noting (more : List Event) (cabinet : Cabinet) : Cabinet :=
  { cabinet with events := cabinet.events ++ more }

theorem Cabinet.noting_nothing (cabinet : Cabinet) : cabinet.noting [] = cabinet := by
  rw [noting, List.append_nil]

def cabinet (office : Office) : Cabinet :=
  { logsFail := office.logsFail
    logs := office.logs
    profiles := office.profiles
    tenantsFail := office.tenantsFail
    lookups := office.lookups
    events := office.events }

def withCabinet (cabinet : Cabinet) (office : Office) : Office :=
  { office with
    logsFail := cabinet.logsFail
    logs := cabinet.logs
    profiles := cabinet.profiles
    tenantsFail := cabinet.tenantsFail
    lookups := cabinet.lookups
    events := cabinet.events }

/-- The call does not depend on the cabinet, and it only adds events to it. -/
def LeavesCabinet {α : Type} (call : Office → α × Office) : Prop :=
  ∀ office, ∃ more, ∀ cabinet, call (office.withCabinet cabinet) =
    ((call office).1, (call office).2.withCabinet (cabinet.noting more))

/-- The call adds these events to the office's own cabinet, and these to any other. -/
theorem LeavesCabinet.parts {α : Type} {call : Office → α × Office} (leaves : LeavesCabinet call)
    (office : Office) : ∃ more,
      (call office).2.cabinet = office.cabinet.noting more ∧
        ∀ cabinet, call (office.withCabinet cabinet) =
          ((call office).1, (call office).2.withCabinet (cabinet.noting more)) := by
  obtain ⟨more, answers⟩ := leaves office
  have own : call office =
      ((call office).1, (call office).2.withCabinet (office.cabinet.noting more)) :=
    answers office.cabinet
  exact ⟨more, congrArg (fun pair => pair.2.cabinet) own, answers⟩

section Calls

variable (cabinet : Cabinet) (office : Office)

theorem leaves_cabinet_of_silent {α : Type} {call : Office → α × Office}
    (silent : ∀ cabinet office, call (office.withCabinet cabinet) =
      ((call office).1, (call office).2.withCabinet cabinet)) : LeavesCabinet call := by
  intro office
  refine ⟨[], fun cabinet => ?_⟩
  rw [cabinet.noting_nothing]
  exact silent cabinet office

theorem answering_with_cabinet (service : Collaborator) :
    (office.withCabinet cabinet).answering service =
      (office.answering service).withCabinet cabinet :=
  answering_changed office (withCabinet cabinet) (fun _ => rfl) (fun _ => rfl) service

theorem wait_with_cabinet : (office.withCabinet cabinet).wait = office.wait.withCabinet cabinet := by
  cases ringing : office.alarm with
  | none => simp only [wait, withCabinet, ringing]
  | some time =>
      simp only [wait, withCabinet, ringing]
      split
      · rfl
      · rfl

theorem collect_with_cabinet (email : Email) :
    (office.withCabinet cabinet).collect email =
      ((office.collect email).1, (office.collect email).2.withCabinet cabinet) := by
  by_cases unreached : email.recipient ∈ office.failing
  · have also : email.recipient ∈ (office.withCabinet cabinet).failing := unreached
    rw [collect_failing unreached, collect_failing also, answering_with_cabinet]
  · have also : email.recipient ∉ (office.withCabinet cabinet).failing := unreached
    rw [collect_reached unreached, collect_reached also]
    exact Prod.ext rfl (answering_with_cabinet cabinet (office.withMail email) .sender)

end Calls

theorem note_leaves_cabinet (event : Event) :
    LeavesCabinet fun office => ((), office.note event) := by
  intro office
  exact ⟨[event], fun cabinet => rfl⟩

theorem wait_leaves_cabinet : LeavesCabinet fun office => ((), office.wait) :=
  leaves_cabinet_of_silent fun cabinet office => Prod.ext rfl (wait_with_cabinet cabinet office)

theorem answering_leaves_cabinet (service : Collaborator) :
    LeavesCabinet fun office => ((), office.answering service) :=
  leaves_cabinet_of_silent fun cabinet office =>
    Prod.ext rfl (answering_with_cabinet cabinet office service)

theorem find_active_leaves_cabinet (tenant : Uuid) (kind : Kind) :
    LeavesCabinet (findActive tenant kind) :=
  leaves_cabinet_of_silent fun cabinet office =>
    Prod.ext rfl (answering_with_cabinet cabinet office .templates)

theorem collect_leaves_cabinet (email : Email) : LeavesCabinet (collect email) :=
  leaves_cabinet_of_silent fun cabinet office => collect_with_cabinet cabinet office email

theorem post_leaves_cabinet (email : Email) : LeavesCabinet (post email) := by
  intro office
  by_cases refused : email.recipient ∈ office.refused
  · refine ⟨[], fun cabinet => ?_⟩
    have also : email.recipient ∈ (office.withCabinet cabinet).refused := refused
    rw [post_refused refused, post_refused also, answering_with_cabinet, cabinet.noting_nothing]
  · cases kind : office.mailer with
    | skipping id =>
        let skipped : Event := .mailSkipped email.recipient email.subject ("noop-" ++ id)
        refine ⟨[skipped], fun cabinet => ?_⟩
        have also : email.recipient ∉ (office.withCabinet cabinet).refused := refused
        rw [post_skipped refused kind, post_skipped also kind]
        have answered :=
          answering_with_cabinet (cabinet.noting [skipped]) (office.note skipped) .sender
        exact Prod.ext rfl answered
    | keeping =>
        refine ⟨[], fun cabinet => ?_⟩
        have also : email.recipient ∉ (office.withCabinet cabinet).refused := refused
        rw [cabinet.noting_nothing]
        by_cases instant : office.delay = 0
        · rw [post_instant refused kind instant, post_instant also kind instant]
          have asked : (office.withCabinet cabinet).asked = office.asked.withCabinet cabinet := rfl
          rw [asked, collect_with_cabinet]
        · rw [post_slow refused kind instant, post_slow also kind instant]
          rfl

end Office

end SchoolNotice
