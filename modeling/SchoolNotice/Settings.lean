import SchoolNotice.Number.Natural
import SchoolNotice.Text.Blank
import SchoolNotice.Text.Quoted

/-!
The worker's settings, read from named variables. A blank variable counts as unset. The variables
are checked in a fixed order, so of several faults the first in that order is reported.
-/

namespace SchoolNotice

inductive Backend where
  | smtp
  | ses
  | noop
deriving DecidableEq, Repr

namespace Backend

def name : Backend → String
  | .smtp => "smtp"
  | .ses => "ses"
  | .noop => "noop"

end Backend

inductive SettingsFault where
  | number (fault : Number.NaturalFault)
  | belowOne
  | unknownBackend
deriving DecidableEq, Repr

namespace SettingsFault

def message : SettingsFault → String
  | .number fault => fault.message
  | .belowOne => "1 以上を指定してください"
  | .unknownBackend => "smtp / ses / noop のいずれかを指定してください"

end SettingsFault

inductive SettingsError where
  | missing (name : String)
  | invalid (name value : String) (fault : SettingsFault)
deriving DecidableEq, Repr

namespace SettingsError

def message : SettingsError → String
  | .missing name => name ++ " が設定されていません"
  | .invalid name value fault =>
      name ++ " の値が不正です: " ++ Text.Quoted.encode value ++ "（" ++ fault.message ++ "）"

end SettingsError

structure Settings where
  databaseUrl : String
  backend : Backend
  smtpHost : String
  smtpPort : Nat
  /-- The sender's address of mail that has none of its own. -/
  fromAddress : String
  deadlineSeconds : Option Nat
  concurrency : Nat
deriving DecidableEq, Repr

namespace Settings

def deadlineName : String := "NOTIFICATION_DEADLINE_SECS"
def concurrencyName : String := "NOTIFICATION_BATCH_CONCURRENCY"
def databaseName : String := "DATABASE_URL"
def backendName : String := "NOTIFICATION_BACKEND"
def hostName : String := "SMTP_HOST"
def portName : String := "SMTP_PORT"
def fromName : String := "NOTIFICATION_FROM_ADDRESS"

def defaultConcurrency : Nat := 8
def defaultBackend : String := "noop"
def defaultHost : String := "localhost"
def defaultPort : String := "1025"
def defaultFrom : String := "noreply@scholamail.example.com"

/-- Deadlines and concurrency are words of 64 bits. -/
def wordLimit : Nat := Nat.pow 2 64

def portLimit : Nat := Nat.pow 2 16

def readNumber (limit : Nat) (name value : String) : Except SettingsError Nat :=
  match Number.readNatural limit (Text.trim value.toList) with
  | .ok number => .ok number
  | .error fault => .error (.invalid name value (.number fault))

def readBackend (name value : String) : Except SettingsError Backend :=
  let word := (Text.trim value.toList).map Char.toLower
  if word = "smtp".toList then .ok .smtp
  else if word = "ses".toList then .ok .ses
  else if word = "noop".toList then .ok .noop
  else .error (.invalid name value .unknownBackend)

def load (lookup : String → Option String) : Except SettingsError Settings := do
  let given? (name : String) : Option String := (lookup name).bind Text.nonBlank?
  let deadline ←
    match given? deadlineName with
    | none => .ok none
    | some value => (readNumber wordLimit deadlineName value).map some
  let concurrency ←
    match given? concurrencyName with
    | none => .ok defaultConcurrency
    | some value => readNumber wordLimit concurrencyName value
  if concurrency = 0 then
    .error (.invalid concurrencyName "0" .belowOne)
  let databaseUrl ←
    match given? databaseName with
    | none => .error (.missing databaseName)
    | some value => .ok value
  let backend ← readBackend backendName ((given? backendName).getD defaultBackend)
  let port ← readNumber portLimit portName ((given? portName).getD defaultPort)
  .ok
    { databaseUrl := databaseUrl
      backend := backend
      smtpHost := (given? hostName).getD defaultHost
      smtpPort := port
      fromAddress := (given? fromName).getD defaultFrom
      deadlineSeconds := deadline
      concurrency := concurrency }

end Settings

inductive LogFormat where
  | json
  | pretty
deriving DecidableEq, Repr

namespace LogFormat

def name : LogFormat → String
  | .json => "json"
  | .pretty => "pretty"

/-- Reads the name of a form in any case; any other text means `pretty`. -/
def ofText (text : String) : LogFormat :=
  if (Text.trim text.toList).map Char.toLower = "json".toList then .json else .pretty

end LogFormat

structure LogSettings where
  service : String
  format : LogFormat
  filter : Option String
deriving DecidableEq, Repr

namespace LogSettings

def defaultDirectives : String := "info,scholamail=debug"

def load (service : String) (lookup : String → Option String) : LogSettings :=
  { service := service
    format := ((lookup "LOG_FORMAT").map LogFormat.ofText).getD .pretty
    filter := (lookup "RUST_LOG").bind Text.nonBlank? }

def directives (settings : LogSettings) : String := settings.filter.getD defaultDirectives

end LogSettings

end SchoolNotice
