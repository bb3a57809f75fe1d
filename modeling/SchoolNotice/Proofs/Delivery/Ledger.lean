import SchoolNotice.Delivery.Office

/-!
What the log of an office tells of its mails. Each entry confirms a mail that was sent or explains why one was
not, and the mails come in the order of the entries that confirm them.
-/

namespace SchoolNotice

def OneLine (text : String) : Prop := '\r' ∉ text.toList ∧ '\n' ∉ text.toList

theorem Rendered.one_line_subject (subject body : String) (theme : Theme) (context : Context) :
    OneLine (Rendered.ofPatterns subject body theme context).subject := by
  have folded : ∀ text : List Char, '\r' ∉ oneLine text ∧ '\n' ∉ oneLine text := by
    intro text
    simp only [oneLine, List.mem_map, not_exists, not_and]
    constructor
    all_goals
      intro char _ same
      split at same
      · cases same
      · simp_all
  simp only [OneLine, ofPatterns, String.toList_ofList]
  exact folded _

namespace LogEntry

structure Confirms (entry : LogEntry) (email : Email) (number : Nat) : Prop where
  status : entry.status = .sent
  recipient : entry.recipient = email.recipient
  subject : entry.subject = email.subject
  identified : entry.messageId = some ("mock-" ++ toString number)
  faultless : entry.error = none

structure Explains (entry : LogEntry) : Prop where
  status : entry.status = .failed
  unidentified : entry.messageId = none
  explained : ∃ cause : SendError, entry.error = some cause.message

end LogEntry

def entriesWith (status : Status) (entries : List LogEntry) : List LogEntry :=
  entries.filter fun entry => entry.status = status

inductive Ledger : List Email → List LogEntry → Prop where
  | empty : Ledger [] []
  | sent {mails : List Email} {entries : List LogEntry} {email : Email} {entry : LogEntry}
      (ledger : Ledger mails entries) (oneLine : OneLine email.subject)
      (confirms : entry.Confirms email (mails.length + 1)) :
      Ledger (mails ++ [email]) (entries ++ [entry])
  | failed {mails : List Email} {entries : List LogEntry} {entry : LogEntry}
      (ledger : Ledger mails entries) (oneLine : OneLine entry.subject)
      (explains : entry.Explains) : Ledger mails (entries ++ [entry])

namespace Ledger

variable {mails : List Email} {entries : List LogEntry} (ledger : Ledger mails entries)

theorem entries_with_append (status : Status) (entries : List LogEntry) (entry : LogEntry) :
    entriesWith status (entries ++ [entry]) =
      entriesWith status entries ++ if entry.status = status then [entry] else [] := by
  rw [entriesWith, List.filter_append, List.filter_cons, List.filter_nil]
  simp only [decide_eq_true_eq]
  rfl

include ledger

theorem length_sent : mails.length = (entriesWith .sent entries).length := by
  induction ledger with
  | empty => rfl
  | sent ledger oneLine confirms induction =>
      rw [entries_with_append, if_pos confirms.status, List.length_append, List.length_append,
        induction]
      rfl
  | failed ledger oneLine explains induction =>
      have unsent : ¬_ = Status.sent := fun sent => nomatch explains.status.symm.trans sent
      rw [entries_with_append, if_neg unsent, List.append_nil, induction]

theorem length_entries :
    entries.length = mails.length + (entriesWith .failed entries).length := by
  induction ledger with
  | empty => rfl
  | sent ledger oneLine confirms induction =>
      have reached : ¬_ = Status.failed := fun failed => nomatch confirms.status.symm.trans failed
      rw [entries_with_append, if_neg reached, List.append_nil, List.length_append,
        List.length_append, induction]
      exact Nat.add_right_comm ..
  | failed ledger oneLine explains induction =>
      rw [entries_with_append, if_pos explains.status, List.length_append, List.length_append,
        induction]
      rfl

/-- The mails and the entries that confirm them match, one after another. -/
theorem confirmed (place : Nat) (email : Email) (entry : LogEntry)
    (mailed : mails[place]? = some email)
    (logged : (entriesWith .sent entries)[place]? = some entry) :
    entry.Confirms email (place + 1) := by
  induction ledger with
  | empty => cases mailed
  | @sent mails entries last final ledger oneLine confirms induction =>
      have length := ledger.length_sent
      rw [entries_with_append, if_pos confirms.status] at logged
      have within := (List.getElem?_eq_some_iff.mp mailed).1
      rw [List.length_append, List.length_singleton] at within
      rcases Nat.lt_succ_iff_lt_or_eq.mp within with before | rfl
      · rw [List.getElem?_append_left before] at mailed
        rw [List.getElem?_append_left (length ▸ before)] at logged
        exact induction mailed logged
      · rw [List.getElem?_concat_length] at mailed
        rw [length, List.getElem?_concat_length] at logged
        cases mailed
        cases logged
        exact confirms
  | failed ledger oneLine explains induction =>
      have unsent : ¬_ = Status.sent := fun sent => nomatch explains.status.symm.trans sent
      rw [entries_with_append, if_neg unsent, List.append_nil] at logged
      exact induction mailed logged

theorem explained : ∀ entry ∈ entriesWith .failed entries, entry.Explains := by
  induction ledger with
  | empty => exact nofun
  | sent ledger oneLine confirms induction =>
      have reached : ¬_ = Status.failed := fun failed => nomatch confirms.status.symm.trans failed
      rw [entries_with_append, if_neg reached, List.append_nil]
      exact induction
  | failed ledger oneLine explains induction =>
      rw [entries_with_append, if_pos explains.status]
      intro entry member
      rcases List.mem_append.mp member with before | last
      · exact induction entry before
      · cases List.mem_singleton.mp last
        exact explains

theorem one_line :
    (∀ email ∈ mails, OneLine email.subject) ∧ ∀ entry ∈ entries, OneLine entry.subject := by
  induction ledger with
  | empty => exact ⟨nofun, nofun⟩
  | sent ledger oneLine confirms induction =>
      simp only [List.forall_mem_append, List.forall_mem_singleton]
      refine ⟨⟨induction.1, oneLine⟩, induction.2, ?_⟩
      rw [confirms.subject]
      exact oneLine
  | failed ledger oneLine explains induction =>
      simp only [List.forall_mem_append, List.forall_mem_singleton]
      exact ⟨induction.1, induction.2, oneLine⟩

end Ledger

namespace Office

/-- The counts, the mails and the log entries of the office belong together. -/
structure Accounted (office : Office) : Prop where
  attempts : office.attempts = office.logs.length
  sent : office.sent.length = (entriesWith .sent office.logs).length
  failed : office.attempts - office.sent.length = (entriesWith .failed office.logs).length
  confirmed : ∀ (place : Nat) (email : Email) (entry : LogEntry),
    office.sent[place]? = some email → (entriesWith .sent office.logs)[place]? = some entry →
      entry.Confirms email (place + 1)
  explained : ∀ entry ∈ entriesWith .failed office.logs, entry.Explains
  oneLine : (∀ email ∈ office.sent, OneLine email.subject) ∧
    ∀ entry ∈ office.logs, OneLine entry.subject

theorem accounted_of_ledger {office : Office} (ledger : Ledger office.sent office.logs)
    (attempts : office.attempts = office.logs.length) : office.Accounted :=
  { attempts := attempts
    sent := ledger.length_sent
    failed := by
      rw [attempts, ledger.length_entries]
      exact Nat.add_sub_cancel_left ..
    confirmed := ledger.confirmed
    explained := ledger.explained
    oneLine := ledger.one_line }

end Office

end SchoolNotice
