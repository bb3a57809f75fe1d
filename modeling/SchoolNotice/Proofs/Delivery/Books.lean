import SchoolNotice.Delivery.Office

/-!
The books of an office: the mails that were sent, the log entries and the events, and how often the mailer and
the directory were asked. A call changes an office in a few ways, and none of them takes anything out of the
books.
-/

namespace SchoolNotice

structure Books where
  mails : List Email
  entries : List LogEntry
  attempts : Nat
  lookups : Nat
  events : List Event

namespace Books

def empty : Books := ⟨[], [], 0, 0, []⟩

def ofMail (email : Email) : Books := { empty with mails := [email] }

def ofEntry (entry : LogEntry) : Books := { empty with entries := [entry] }

def ofEvent (event : Event) : Books := { empty with events := [event] }

def attempt : Books := { empty with attempts := 1 }

def lookup : Books := { empty with lookups := 1 }

instance : Append Books where
  append books more :=
    { mails := books.mails ++ more.mails
      entries := books.entries ++ more.entries
      attempts := books.attempts + more.attempts
      lookups := books.lookups + more.lookups
      events := books.events ++ more.events }

theorem append_mk (books : Books) (mails : List Email) (entries : List LogEntry)
    (attempts lookups : Nat) (events : List Event) :
    books ++ Books.mk mails entries attempts lookups events =
      ⟨books.mails ++ mails, books.entries ++ entries, books.attempts + attempts,
        books.lookups + lookups, books.events ++ events⟩ := rfl

theorem append_assoc (books more others : Books) :
    books ++ more ++ others = books ++ (more ++ others) := by
  cases others
  cases more
  simp only [append_mk, List.append_assoc, Nat.add_assoc]

theorem append_empty (books : Books) : books ++ empty = books := by
  simp only [empty, append_mk, List.append_nil, Nat.add_zero]

end Books

namespace Office

variable (office : Office)

def asked : Office := { office with attempts := office.attempts + 1 }

def consulted : Office := { office with lookups := office.lookups + 1 }

def withMail (email : Email) : Office := { office with sent := office.sent ++ [email] }

def withEntry (entry : LogEntry) : Office := { office with logs := office.logs ++ [entry] }

theorem find_profile_answer (tenant : Uuid) :
    (office.findProfile tenant).1 =
      if office.tenantsFail then .error outage else .ok (office.profileOf? tenant) := rfl

section Calls

variable {office} {email : Email}

theorem collect_failing (fails : email.recipient ∈ office.failing) :
    office.collect email =
      (.error (.sendFailed ("mock: " ++ email.recipient ++ " への送信失敗")),
        office.answering .sender) := by
  rw [collect, if_pos fails]

theorem collect_reached (reached : email.recipient ∉ office.failing) :
    office.collect email =
      (.ok ("mock-" ++ toString (office.sent.length + 1)),
        (office.withMail email).answering .sender) := by
  simp only [collect, if_neg reached, List.length_append, List.length_singleton]
  rfl

theorem post_refused (refused : email.recipient ∈ office.refused) :
    office.post email =
      (some (.error (.invalidAddress email.recipient)), office.answering .sender) := by
  rw [post, if_pos refused]

theorem post_skipped (accepted : email.recipient ∉ office.refused) {id : String}
    (skipping : office.mailer = .skipping id) :
    office.post email =
      (some (.ok ("noop-" ++ id)),
        (office.note (.mailSkipped email.recipient email.subject ("noop-" ++ id))).answering
          .sender) := by
  simp only [post, if_neg accepted, skipping]

theorem post_instant (accepted : email.recipient ∉ office.refused)
    (keeping : office.mailer = .keeping) (instant : office.delay = 0) :
    office.post email =
      (some (office.asked.collect email).1, (office.asked.collect email).2) := by
  rw [post, if_neg accepted]
  split
  · next skipping => cases keeping.symm.trans skipping
  · exact if_pos instant

theorem post_slow (accepted : email.recipient ∉ office.refused)
    (keeping : office.mailer = .keeping) (slow : office.delay ≠ 0) :
    office.post email = (none, office.asked) := by
  rw [post, if_neg accepted]
  split
  · next skipping => cases keeping.symm.trans skipping
  · exact if_neg slow

theorem insert_log_failing (entry : LogEntry) (fails : office.logsFail = true) :
    office.insertLog entry = (.error outage, office.answering .logs) := by
  rw [insertLog, if_pos fails]

theorem insert_log_kept (entry : LogEntry) (keeps : office.logsFail = false) :
    office.insertLog entry = (.ok (), (office.withEntry entry).answering .logs) := by
  have writes : ¬office.logsFail = true := Bool.eq_false_iff.mp keeps
  rw [insertLog, if_neg writes]
  rfl

end Calls

def books : Books :=
  ⟨office.sent, office.logs, office.attempts, office.lookups, office.events⟩

theorem books_note (event : Event) :
    (office.note event).books = office.books ++ Books.ofEvent event := by
  simp only [note, books, Books.ofEvent, Books.empty, Books.append_mk, List.append_nil,
    Nat.add_zero]

theorem books_asked : office.asked.books = office.books ++ Books.attempt := by
  simp only [asked, books, Books.attempt, Books.empty, Books.append_mk, List.append_nil,
    Nat.add_zero]

theorem books_consulted : office.consulted.books = office.books ++ Books.lookup := by
  simp only [consulted, books, Books.lookup, Books.empty, Books.append_mk, List.append_nil,
    Nat.add_zero]

theorem books_with_mail (email : Email) :
    (office.withMail email).books = office.books ++ Books.ofMail email := by
  simp only [withMail, books, Books.ofMail, Books.empty, Books.append_mk, List.append_nil,
    Nat.add_zero]

theorem books_with_entry (entry : LogEntry) :
    (office.withEntry entry).books = office.books ++ Books.ofEntry entry := by
  simp only [withEntry, books, Books.ofEntry, Books.empty, Books.append_mk, List.append_nil,
    Nat.add_zero]

/-- What an answer does to an office and a change of other parts of it can be done in either order. -/
theorem answering_changed (changed : Office → Office)
    (armed : ∀ office, (changed office).armed = office.armed)
    (apart : ∀ office, changed { office with armed := none, cancelled := true } =
      { changed office with armed := none, cancelled := true }) (service : Collaborator) :
    (changed office).answering service = changed (office.answering service) := by
  unfold answering
  rw [armed office]
  split
  · exact (apart office).symm
  · rfl

theorem books_answering (service : Collaborator) :
    (office.answering service).books = office.books := by
  unfold answering
  split
  · rfl
  · rfl

theorem books_wait : office.wait.books = office.books := by
  unfold wait
  split
  · dsimp only
    split
    · rfl
    · rfl
  · rfl

end Office

end SchoolNotice
