import SchoolNotice.Delivery.Office

/-!
What a call of a service changes in an office. Much of an office is set up once and only read; beside that
a call may add mails that were sent and log entries, and it never takes any away.
-/

namespace SchoolNotice

namespace Office

/-- The part of an office that no delivery changes. -/
def setup (office : Office) : Office :=
  { office with
    sent := [], attempts := 0, lookups := 0, logs := [], cancelled := false, armed := none
    elapsed := 0, alarm := none, events := [] }

/-- These mails and log entries were added, and deliveries that were cancelled still are. -/
structure Grew (mails : List Email) (entries : List LogEntry) (before after : Office) : Prop where
  setup : after.setup = before.setup
  sent : after.sent = before.sent ++ mails
  logs : after.logs = before.logs ++ entries
  cancelled : before.cancelled = true → after.cancelled = true

namespace Grew

variable {mails moreMails : List Email} {entries moreEntries : List LogEntry}
  {before middle after : Office}

theorem refl (office : Office) : Grew [] [] office office :=
  { setup := rfl
    sent := (List.append_nil _).symm
    logs := (List.append_nil _).symm
    cancelled := id }

theorem trans (first : Grew mails entries before middle)
    (second : Grew moreMails moreEntries middle after) :
    Grew (mails ++ moreMails) (entries ++ moreEntries) before after := by
  constructor
  · rw [second.setup, first.setup]
  · rw [second.sent, first.sent, List.append_assoc]
  · rw [second.logs, first.logs, List.append_assoc]
  · intro stopped
    exact second.cancelled (first.cancelled stopped)

theorem after_quiet (first : Grew [] [] before middle) (second : Grew mails entries middle after) :
    Grew mails entries before after :=
  first.trans second

theorem then_quiet (first : Grew mails entries before middle) (second : Grew [] [] middle after) :
    Grew mails entries before after := by
  simpa only [List.append_nil] using first.trans second

end Grew

variable (office : Office)

theorem grew_note (event : Event) : Grew [] [] office (office.note event) := by
  constructor <;> simp [note, setup]

theorem grew_answering (service : Collaborator) : Grew [] [] office (office.answering service) := by
  unfold answering
  split
  · constructor <;> simp [setup]
  · exact Grew.refl office

theorem grew_find_profile (tenant : Uuid) : Grew [] [] office (office.findProfile tenant).2 := by
  have counted : Grew [] [] office { office with lookups := office.lookups + 1 } := by
    constructor <;> simp [setup]
  exact counted.after_quiet (grew_answering _ .tenants)

theorem grew_find_active (tenant : Uuid) (kind : Kind) :
    Grew [] [] office (office.findActive tenant kind).2 :=
  grew_answering office .templates

theorem grew_wait : Grew [] [] office office.wait := by
  unfold wait
  split
  · dsimp only
    split <;> constructor <;> simp [setup]
  · constructor <;> simp [setup]

theorem grew_cancel : Grew [] [] office { office with cancelled := true } := by
  constructor <;> simp [setup]

/-- A mailer's reply, with the mails that it kept beside those before. A mail that is kept has an
identifier that counts the mails up to it; one that fails is to an address that mail does not reach. -/
inductive Replied (email : Email) : Reply → List Email → Prop where
  | kept (reached : email.recipient ∉ office.failing) :
      Replied email (.ok ("mock-" ++ toString (office.sent.length + 1))) [email]
  | failed (error : SendError)
      (unreached : email.recipient ∈ office.failing ∨ email.recipient ∈ office.refused) :
      Replied email (.error error) []

theorem collect_replied (email : Email) : ∃ mails,
    Replied office email (office.collect email).1 mails ∧
      Grew mails [] office (office.collect email).2 := by
  unfold collect
  split
  · next fails => exact ⟨[], .failed _ (.inl fails), grew_answering office .sender⟩
  · next reached =>
    have kept : Grew [email] [] office { office with sent := office.sent ++ [email] } := by
      constructor <;> simp [setup]
    refine ⟨[email], ?_, kept.then_quiet (grew_answering _ .sender)⟩
    simp only [List.length_append, List.length_singleton]
    exact .kept reached

theorem replied_when_counted {attempts : Nat} {email : Email} {reply : Reply} {mails : List Email}
    (replied : Replied { office with attempts := attempts } email reply mails) :
    Replied office email reply mails := by
  cases replied with
  | kept reached => exact .kept reached
  | failed error unreached => exact .failed error unreached

/-- A mail that is handed over is under way if mails take time, else it is answered. -/
theorem post_replied (email : Email) :
    ((office.post email).1 = none ∧ office.delay ≠ 0 ∧ Grew [] [] office (office.post email).2) ∨
      ∃ reply mails, (office.post email).1 = some reply ∧
        Grew mails [] office (office.post email).2 ∧
          (office.mailer = .keeping → Replied office email reply mails) := by
  have tried : Grew [] [] office { office with attempts := office.attempts + 1 } := by
    constructor <;> simp [setup]
  unfold post
  split
  · next refused =>
    right
    refine ⟨_, [], rfl, grew_answering office .sender, ?_⟩
    intro _
    exact .failed _ (.inr refused)
  · split
    · next skipping =>
      right
      refine ⟨_, [], rfl, (grew_note office _).then_quiet (grew_answering _ .sender), ?_⟩
      intro keeping
      cases skipping.symm.trans keeping
    · dsimp only
      split
      · right
        obtain ⟨mails, replied, grew⟩ :=
          collect_replied { office with attempts := office.attempts + 1 } email
        refine ⟨_, mails, rfl, tried.after_quiet grew, ?_⟩
        intro _
        exact replied_when_counted office replied
      · next slow =>
        left
        exact ⟨rfl, slow, tried⟩

theorem insert_log_grew (entry : LogEntry) :
    ((office.insertLog entry).1 = .ok () ∧ Grew [] [entry] office (office.insertLog entry).2) ∨
      ((office.insertLog entry).1 = .error outage ∧
        Grew [] [] office (office.insertLog entry).2) := by
  unfold insertLog
  split
  · right
    exact ⟨rfl, grew_answering office .logs⟩
  · left
    have kept : Grew [] [entry] office { office with logs := office.logs ++ [entry] } := by
      constructor <;> simp [setup]
    exact ⟨rfl, kept.then_quiet (grew_answering _ .logs)⟩

end Office

end SchoolNotice
