/-!
The nine kinds of notice, and the two small classifications that a delivery is logged with.
-/

namespace SchoolNotice

inductive Kind where
  | welcome
  | passwordReset
  | leaveRequestSubmitted
  | leaveRequestApproved
  | leaveRequestRejected
  | announcement
  | absenceAlert
  | feeReminder
  | examResult
deriving DecidableEq, Inhabited, Repr

namespace Kind

def all : List Kind :=
  [.welcome, .passwordReset, .leaveRequestSubmitted, .leaveRequestApproved, .leaveRequestRejected,
    .announcement, .absenceAlert, .feeReminder, .examResult]

def name : Kind → String
  | .welcome => "welcome"
  | .passwordReset => "password_reset"
  | .leaveRequestSubmitted => "leave_request_submitted"
  | .leaveRequestApproved => "leave_request_approved"
  | .leaveRequestRejected => "leave_request_rejected"
  | .announcement => "announcement"
  | .absenceAlert => "absence_alert"
  | .feeReminder => "fee_reminder"
  | .examResult => "exam_result"

def ofName? (name : String) : Option Kind := all.find? fun kind => kind.name == name

def unknownName : String := "Matching variant not found"

theorem of_name_name (kind : Kind) : ofName? kind.name = some kind := by cases kind <;> decide

end Kind

inductive Source where
  | stored
  | builtin
deriving DecidableEq, Repr

namespace Source

def name : Source → String
  | .stored => "stored"
  | .builtin => "builtin"

def ofName? (name : String) : Option Source :=
  [Source.stored, .builtin].find? fun source => source.name == name

end Source

inductive Status where
  | sent
  | failed
deriving DecidableEq, Repr

namespace Status

def name : Status → String
  | .sent => "sent"
  | .failed => "failed"

def ofName? (name : String) : Option Status :=
  [Status.sent, .failed].find? fun status => status.name == name

end Status

end SchoolNotice
