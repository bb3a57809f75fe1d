import Mathlib.Algebra.Group.Nat.Defs
import SchoolNotice.Proofs.Settings.Variables

/-!
Settings from variables. If every variable that must say something does, the settings are what the variables say;
else the first fault in the order of the checks is reported. It makes no difference whether a variable is blank or
has no value, and no variable counts but those of the settings.
-/

namespace SchoolNotice

open SchoolNotice.Text

namespace Settings

section Statements

variable (lookup : String → Option String)

structure Described (settings : Settings) : Prop where
  deadline : Taken lookup deadlineName none
    (fun value deadline => ∃ seconds, Number.Writes (2 ^ 64) (trim value.toList) seconds ∧
      deadline = some seconds) settings.deadlineSeconds
  concurrency : Taken lookup concurrencyName 8
    (fun value count => Number.Writes (2 ^ 64) (trim value.toList) count ∧ count ≠ 0)
    settings.concurrency
  database : Holds lookup databaseName settings.databaseUrl
  backend : Taken lookup backendName .noop
    (fun value backend => backend.Named (trim value.toList)) settings.backend
  host : Taken lookup hostName "localhost" (fun value host => host = value) settings.smtpHost
  port : Taken lookup portName 1025
    (fun value port => Number.Writes (2 ^ 16) (trim value.toList) port) settings.smtpPort
  sender : Taken lookup fromName "noreply@scholamail.example.com"
    (fun value sender => sender = value) settings.fromAddress

structure Loadable : Prop where
  deadline : ∀ value, Holds lookup deadlineName value →
    ∃ seconds, Number.Writes (2 ^ 64) (trim value.toList) seconds
  concurrency : ∀ value, Holds lookup concurrencyName value →
    ∃ count, Number.Writes (2 ^ 64) (trim value.toList) count ∧ count ≠ 0
  database : ∃ value, Holds lookup databaseName value
  backend : ∀ value, Holds lookup backendName value →
    ∃ backend : Backend, backend.Named (trim value.toList)
  port : ∀ value, Holds lookup portName value →
    ∃ port, Number.Writes (2 ^ 16) (trim value.toList) port

inductive Check where
  | deadline
  | concurrency
  | database
  | backend
  | port

inductive Fault : Check → SettingsError → Prop
  | deadline {value : String} {fault : Number.NaturalFault} (holds : Holds lookup deadlineName value)
      (unread : Number.Unread (2 ^ 64) (trim value.toList) fault) :
      Fault .deadline (.invalid deadlineName value (.number fault))
  | concurrency {value : String} {fault : Number.NaturalFault}
      (holds : Holds lookup concurrencyName value)
      (unread : Number.Unread (2 ^ 64) (trim value.toList) fault) :
      Fault .concurrency (.invalid concurrencyName value (.number fault))
  | zero {value : String} (holds : Holds lookup concurrencyName value)
      (zero : Number.Writes (2 ^ 64) (trim value.toList) 0) :
      Fault .concurrency (.invalid concurrencyName "0" .belowOne)
  | database (unset : Unset lookup databaseName) : Fault .database (.missing databaseName)
  | backend {value : String} (holds : Holds lookup backendName value)
      (unknown : ∀ backend : Backend, ¬backend.Named (trim value.toList)) :
      Fault .backend (.invalid backendName value .unknownBackend)
  | port {value : String} {fault : Number.NaturalFault} (holds : Holds lookup portName value)
      (unread : Number.Unread (2 ^ 16) (trim value.toList) fault) :
      Fault .port (.invalid portName value (.number fault))

/-- Of the checks in their order the first that fails reports the error. -/
inductive FirstFault : List Check → SettingsError → Prop
  | here {check : Check} {rest : List Check} {error : SettingsError}
      (fault : Fault lookup check error) : FirstFault (check :: rest) error
  | later {check : Check} {rest : List Check} {error : SettingsError}
      (passed : ∀ other, ¬Fault lookup check other) (first : FirstFault rest error) :
      FirstFault (check :: rest) error

end Statements

/-! ## One check after the other -/

section Checks

variable {lookup : String → Option String} {error : SettingsError}

def deadlineOf : Option String → Except SettingsError (Option Nat) :=
  readOr none fun value => (readNumber wordLimit deadlineName value).map some

def atLeastOne (count : Nat) : Except SettingsError Nat :=
  if count = 0 then .error (.invalid concurrencyName "0" .belowOne) else .ok count

def concurrencyOf : Option String → Except SettingsError Nat :=
  readOr defaultConcurrency fun value => readNumber wordLimit concurrencyName value >>= atLeastOne

def databaseOf : Option String → Except SettingsError String
  | none => .error (.missing databaseName)
  | some value => .ok value

def backendOf : Option String → Except SettingsError Backend :=
  readOr .noop (readBackend backendName)

def portOf : Option String → Except SettingsError Nat :=
  readOr 1025 (readNumber portLimit portName)

def loadGiven (given? : String → Option String) : Except SettingsError Settings := do
  let deadline ← deadlineOf (given? deadlineName)
  let concurrency ← concurrencyOf (given? concurrencyName)
  let databaseUrl ← databaseOf (given? databaseName)
  let backend ← backendOf (given? backendName)
  let port ← portOf (given? portName)
  .ok
    { databaseUrl := databaseUrl
      backend := backend
      smtpHost := (given? hostName).getD defaultHost
      smtpPort := port
      fromAddress := (given? fromName).getD defaultFrom
      deadlineSeconds := deadline
      concurrency := concurrency }

theorem backend_of_default (given : Option String) :
    readBackend backendName (given.getD defaultBackend) = backendOf given := by
  cases given with
  | none => rfl
  | some value => rfl

theorem port_of_default (given : Option String) :
    readNumber portLimit portName (given.getD defaultPort) = portOf given := by
  cases given with
  | none => rfl
  | some value => rfl

theorem load_eq (lookup : String → Option String) : load lookup = loadGiven (given? lookup) := by
  unfold load loadGiven given?
  simp only [backend_of_default, port_of_default]
  cases (lookup deadlineName).bind nonBlank? <;> apply bind_congr <;> intro deadline
  all_goals
    cases (lookup concurrencyName).bind nonBlank? with
    | none => cases (lookup databaseName).bind nonBlank? <;> rfl
    | some value =>
        rw [concurrencyOf, readOr, bind_assoc]
        apply bind_congr
        intro count
        unfold atLeastOne
        split
        · rfl
        · cases (lookup databaseName).bind nonBlank? <;> rfl

section Steps

variable {Setting Result : Type}

theorem bind_eq_ok {step : Except SettingsError Setting} {next : Setting → Except SettingsError Result}
    {result : Result} :
    step >>= next = .ok result ↔ ∃ setting, step = .ok setting ∧ next setting = .ok result := by
  cases step with
  | error fault => exact iff_of_false nofun nofun
  | ok setting =>
      simp only [Except.ok.injEq, exists_eq_left']
      rfl

theorem bind_eq_error {step : Except SettingsError Setting}
    {next : Setting → Except SettingsError Result} :
    step >>= next = .error error ↔
      step = .error error ∨ ∃ setting, step = .ok setting ∧ next setting = .error error := by
  cases step with
  | error fault =>
      constructor
      · intro same
        cases same
        exact .inl rfl
      · rintro (same | ⟨_, same, _⟩)
        · cases same
          rfl
        · cases same
  | ok setting =>
      simp only [Except.ok.injEq, exists_eq_left', reduceCtorEq, false_or]
      rfl

/-- A check that reports its own faults, and behind it checks that report the first of theirs. -/
theorem first_fault_bind {check : Check} {rest : List Check} {step : Except SettingsError Setting}
    {next : Setting → Except SettingsError Result}
    (faults : ∀ error, step = .error error ↔ Fault lookup check error)
    (first : ∀ setting, next setting = .error error ↔ FirstFault lookup rest error) :
    step >>= next = .error error ↔ FirstFault lookup (check :: rest) error := by
  rw [bind_eq_error, faults]
  constructor
  · rintro (fault | ⟨setting, passed, failed⟩)
    · exact .here fault
    · apply FirstFault.later
      · intro other fault
        rw [(faults other).mpr fault] at passed
        cases passed
      · exact (first setting).mp failed
  · rintro (fault | ⟨passed, behind⟩)
    · exact .inl fault
    · cases step with
      | error other => exact absurd ((faults other).mp rfl) (passed other)
      | ok setting => exact .inr ⟨setting, rfl, (first setting).mpr behind⟩

theorem map_some_eq_ok {read : Except SettingsError Setting} {found : Option Setting} :
    read.map some = .ok found ↔ ∃ setting, read = .ok setting ∧ found = some setting := by
  cases read with
  | error fault => exact iff_of_false nofun nofun
  | ok setting =>
      simp only [Except.ok.injEq, exists_eq_left']
      rw [Except.map, Except.ok.injEq, eq_comm]

theorem map_some_eq_error {read : Except SettingsError Setting} :
    read.map some = .error error ↔ read = .error error := by
  cases read with
  | error fault => rw [Except.map, Except.error.injEq, Except.error.injEq]
  | ok setting => exact iff_of_false nofun nofun

end Steps

theorem word_positive : 0 < wordLimit := by decide

theorem port_positive : 0 < portLimit := by decide

theorem deadline_eq_ok {deadline : Option Nat} :
    deadlineOf (given? lookup deadlineName) = .ok deadline ↔
      Taken lookup deadlineName none
        (fun value deadline => ∃ seconds, Number.Writes (2 ^ 64) (trim value.toList) seconds ∧
          deadline = some seconds) deadline := by
  apply read_or_eq_ok
  intro value deadline
  rw [map_some_eq_ok]
  exact exists_congr fun seconds => and_congr_left' (read_number_eq_ok word_positive)

theorem at_least_one_eq_ok {read count : Nat} :
    atLeastOne read = .ok count ↔ read = count ∧ count ≠ 0 := by
  unfold atLeastOne
  split
  next zero => exact iff_of_false nofun fun both => both.2 (both.1 ▸ zero)
  next filled =>
    rw [Except.ok.injEq]
    exact ⟨fun same => ⟨same, same ▸ filled⟩, And.left⟩

theorem at_least_one_eq_error {read : Nat} :
    atLeastOne read = .error error ↔ read = 0 ∧ error = .invalid concurrencyName "0" .belowOne := by
  unfold atLeastOne
  split
  next zero => rw [Except.error.injEq, eq_comm, and_iff_right zero]
  next filled => exact iff_of_false nofun fun both => filled both.1

theorem concurrency_eq_ok {count : Nat} :
    concurrencyOf (given? lookup concurrencyName) = .ok count ↔
      Taken lookup concurrencyName 8
        (fun value count => Number.Writes (2 ^ 64) (trim value.toList) count ∧ count ≠ 0) count := by
  apply read_or_eq_ok
  intro value count
  rw [bind_eq_ok]
  constructor
  · rintro ⟨read, written, checked⟩
    obtain ⟨rfl, filled⟩ := at_least_one_eq_ok.mp checked
    exact ⟨(read_number_eq_ok word_positive).mp written, filled⟩
  · rintro ⟨written, filled⟩
    exact ⟨count, (read_number_eq_ok word_positive).mpr written, at_least_one_eq_ok.mpr ⟨rfl, filled⟩⟩

theorem database_eq_ok {url : String} :
    databaseOf (given? lookup databaseName) = .ok url ↔ Holds lookup databaseName url := by
  rw [← given_eq_some]
  cases given? lookup databaseName with
  | none => exact iff_of_false nofun nofun
  | some value => rw [databaseOf, Except.ok.injEq, Option.some_inj]

theorem backend_eq_ok {backend : Backend} :
    backendOf (given? lookup backendName) = .ok backend ↔
      Taken lookup backendName .noop (fun value backend => backend.Named (trim value.toList)) backend :=
  read_or_eq_ok fun _ _ => read_backend_eq_ok

theorem port_eq_ok {port : Nat} :
    portOf (given? lookup portName) = .ok port ↔
      Taken lookup portName 1025
        (fun value port => Number.Writes (2 ^ 16) (trim value.toList) port) port :=
  read_or_eq_ok fun _ _ => read_number_eq_ok port_positive

theorem deadline_eq_error :
    deadlineOf (given? lookup deadlineName) = .error error ↔ Fault lookup .deadline error := by
  rw [deadlineOf, read_or_eq_error]
  simp only [map_some_eq_error, read_number_eq_error word_positive]
  constructor
  · rintro ⟨value, holds, fault, unread, rfl⟩
    exact .deadline holds unread
  · intro fault
    cases fault with
    | deadline holds unread => exact ⟨_, holds, _, unread, rfl⟩

theorem concurrency_eq_error :
    concurrencyOf (given? lookup concurrencyName) = .error error ↔ Fault lookup .concurrency error := by
  rw [concurrencyOf, read_or_eq_error]
  simp only [bind_eq_error, read_number_eq_error word_positive, read_number_eq_ok word_positive,
    at_least_one_eq_error]
  constructor
  · rintro ⟨value, holds, ⟨fault, unread, rfl⟩ | ⟨count, written, rfl, rfl⟩⟩
    · exact .concurrency holds unread
    · exact .zero holds written
  · intro fault
    cases fault with
    | concurrency holds unread => exact ⟨_, holds, .inl ⟨_, unread, rfl⟩⟩
    | zero holds written => exact ⟨_, holds, .inr ⟨0, written, rfl, rfl⟩⟩

theorem database_eq_error :
    databaseOf (given? lookup databaseName) = .error error ↔ Fault lookup .database error := by
  cases given : given? lookup databaseName with
  | none =>
      rw [databaseOf, Except.error.injEq]
      constructor
      · rintro rfl
        exact .database (given_eq_none.mp given)
      · intro fault
        cases fault
        rfl
  | some value =>
      apply iff_of_false nofun
      intro fault
      cases fault with
      | database unset => exact unset.not_holds (given_eq_some.mp given)

theorem backend_eq_error :
    backendOf (given? lookup backendName) = .error error ↔ Fault lookup .backend error := by
  rw [backendOf, read_or_eq_error]
  simp only [read_backend_eq_error]
  constructor
  · rintro ⟨value, holds, unknown, rfl⟩
    exact .backend holds unknown
  · intro fault
    cases fault with
    | backend holds unknown => exact ⟨_, holds, unknown, rfl⟩

theorem port_eq_error :
    portOf (given? lookup portName) = .error error ↔ Fault lookup .port error := by
  rw [portOf, read_or_eq_error]
  simp only [read_number_eq_error port_positive]
  constructor
  · rintro ⟨value, holds, fault, unread, rfl⟩
    exact .port holds unread
  · intro fault
    cases fault with
    | port holds unread => exact ⟨_, holds, _, unread, rfl⟩

end Checks

/-! ## All checks -/

section Settings

variable {lookup : String → Option String} {settings : Settings} {error : SettingsError}

theorem load_eq_ok : load lookup = .ok settings ↔ Described lookup settings := by
  rw [load_eq, loadGiven]
  simp only [bind_eq_ok, deadline_eq_ok, concurrency_eq_ok, database_eq_ok, backend_eq_ok, port_eq_ok]
  constructor
  · rintro ⟨deadline, deadlineTaken, count, countTaken, url, held, backend, backendTaken, port, portTaken, same⟩
    cases same
    exact ⟨deadlineTaken, countTaken, held, backendTaken, taken_given, portTaken, taken_given⟩
  · intro described
    refine ⟨_, described.deadline, _, described.concurrency, _, described.database, _,
      described.backend, _, described.port, ?_⟩
    have host := described.host.eq_given
    have sender := described.sender.eq_given
    cases settings
    cases host
    cases sender
    rfl

theorem load_eq_error :
    load lookup = .error error ↔
      FirstFault lookup [.deadline, .concurrency, .database, .backend, .port] error := by
  rw [load_eq, loadGiven]
  apply first_fault_bind fun _ => deadline_eq_error
  intro deadline
  apply first_fault_bind fun _ => concurrency_eq_error
  intro count
  apply first_fault_bind fun _ => database_eq_error
  intro url
  apply first_fault_bind fun _ => backend_eq_error
  intro backend
  apply first_fault_bind fun _ => port_eq_error
  intro port
  exact iff_of_false nofun nofun

theorem loadable_iff : Loadable lookup ↔ ∃ settings, Described lookup settings := by
  constructor
  · intro loadable
    obtain ⟨url, database⟩ := loadable.database
    have timed : ∀ value, Holds lookup deadlineName value → ∃ (deadline : Option Nat) (seconds : Nat),
        Number.Writes (2 ^ 64) (trim value.toList) seconds ∧ deadline = some seconds := by
      intro value holds
      obtain ⟨seconds, written⟩ := loadable.deadline value holds
      exact ⟨some seconds, seconds, written, rfl⟩
    obtain ⟨deadline, deadlineTaken⟩ := exists_taken none timed
    obtain ⟨count, countTaken⟩ := exists_taken 8 loadable.concurrency
    obtain ⟨backend, backendTaken⟩ := exists_taken .noop loadable.backend
    obtain ⟨port, portTaken⟩ := exists_taken 1025 loadable.port
    exact ⟨⟨url, backend, _, port, _, deadline, count⟩, deadlineTaken, countTaken, database,
      backendTaken, taken_given, portTaken, taken_given⟩
  · rintro ⟨settings, described⟩
    constructor
    case deadline =>
      intro value holds
      obtain ⟨seconds, written, _⟩ := described.deadline.means_held holds
      exact ⟨seconds, written⟩
    case concurrency => exact fun value holds => ⟨_, described.concurrency.means_held holds⟩
    case database => exact ⟨_, described.database⟩
    case backend => exact fun value holds => ⟨_, described.backend.means_held holds⟩
    case port => exact fun value holds => ⟨_, described.port.means_held holds⟩

theorem Described.concurrency_positive (described : Described lookup settings) :
    1 ≤ settings.concurrency := by
  apply described.concurrency.keeps (by decide)
  intro value count both
  exact Nat.one_le_iff_ne_zero.mpr both.2

/-- Loading sees of each variable whether it is unset and else its value. -/
theorem load_eq_of_given {other : String → Option String}
    (same : ∀ name ∈ [deadlineName, concurrencyName, databaseName, backendName, hostName, portName, fromName],
      given? other name = given? lookup name) : load other = load lookup := by
  simp only [List.forall_mem_cons] at same
  obtain ⟨deadline, concurrency, database, backend, host, port, sender, _⟩ := same
  rw [load_eq, load_eq, loadGiven, loadGiven, deadline, concurrency, database, backend, host, port, sender]

/-- Settings are loaded exactly if every variable that must say something does, and are then what the variables
say; else the first fault in the order of the checks is reported. It makes no difference whether a variable is blank
or has no value, nor what any other variable has. -/
theorem load_exact (lookup : String → Option String) :
    ((∃ settings, load lookup = .ok settings) ↔ Loadable lookup) ∧
    (∀ settings, load lookup = .ok settings ↔ Described lookup settings) ∧
    (∀ settings, load lookup = .ok settings → 1 ≤ settings.concurrency) ∧
    (∀ error, load lookup = .error error ↔
      FirstFault lookup [.deadline, .concurrency, .database, .backend, .port] error) ∧
    ∀ other : String → Option String,
      (∀ name ∈ ["NOTIFICATION_DEADLINE_SECS", "NOTIFICATION_BATCH_CONCURRENCY", "DATABASE_URL",
          "NOTIFICATION_BACKEND", "SMTP_HOST", "SMTP_PORT", "NOTIFICATION_FROM_ADDRESS"],
        other name = lookup name ∨ Unset other name ∧ Unset lookup name) →
        load other = load lookup := by
  constructor
  · rw [loadable_iff]
    exact exists_congr fun settings => load_eq_ok
  constructor
  · exact fun settings => load_eq_ok
  constructor
  · exact fun settings loaded => (load_eq_ok.mp loaded).concurrency_positive
  constructor
  · exact fun error => load_eq_error
  · intro other agrees
    apply load_eq_of_given
    intro name inside
    rcases agrees name inside with same | ⟨unset, also⟩
    · rw [given?, given?, same]
    · rw [given_eq_none.mpr unset, given_eq_none.mpr also]

theorem load_exact_blank :
    let entries := [("DATABASE_URL", " db "), ("NOTIFICATION_BACKEND", "\u3000SmTp"), ("SMTP_PORT", "\t+0080 ")]
    let lookup := fun name => entries.lookup name
    let other := fun name =>
      (("NOTIFICATION_BATCH_CONCURRENCY", "\u3000") :: ("SMTP_USER", "office") :: entries).lookup name
    let settings := Settings.mk " db " .smtp "localhost" 80 "noreply@scholamail.example.com" none 8
    Described lookup settings ∧ 1 ≤ settings.concurrency ∧ load other = load lookup := by
  intro entries lookup other settings
  have exactly := load_exact lookup
  have loaded : load lookup = .ok settings := by decide
  constructor
  · exact (exactly.2.1 settings).mp loaded
  constructor
  · exact exactly.2.2.1 settings loaded
  · exact exactly.2.2.2.2 other (by decide)

-- The checks behind that of the concurrency would all fail too.
example :
    load (fun name => [("NOTIFICATION_BATCH_CONCURRENCY", " 0"), ("NOTIFICATION_BACKEND", "post"),
        ("SMTP_PORT", "65536")].lookup name) =
      .error (.invalid concurrencyName "0" .belowOne) := by decide

end Settings

end Settings

end SchoolNotice
