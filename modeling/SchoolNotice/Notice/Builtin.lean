import SchoolNotice.Notice.Kind
import SchoolNotice.Template.Printer
import SchoolNotice.Theme

/-!
The templates that come with the program, used where a tenant has none of its own. Seven of the nine
kinds have one. They are built from nodes, so what they say is written in the template language by
its own printer.
-/

namespace SchoolNotice

/-- A template of the program: patterns for subject and body, and a theme. -/
structure Builtin where
  subject : String
  body : String
  theme : Theme
deriving DecidableEq, Repr

namespace Builtin

open SchoolNotice.Template

def ofPatterns (subject body : String) : Builtin := ⟨subject, body, .classic⟩

def say (text : String) : Leaf := .text text.toList

def slot (paths : List String) : Leaf :=
  .placeholder (.ofCandidates (paths.map fun path => .path path.toList))

/-- A slot for the first of these paths that has a value, or else for a text. -/
def slotOr (paths : List String) (text : String) : Leaf :=
  .placeholder (.ofCandidates
    ((paths.map fun path => .path path.toList) ++ [.literal text.toList]))

def given (path : String) (body : List Leaf) : Node := .block path.toList body

def always (leaves : List Leaf) : List Node := leaves.map .leaf

def student (otherwise : String) : Leaf := slotOr ["student.name", "student.first_name"] otherwise

def dearParent : List Node :=
  always [say "<p>Dear ", slotOr ["parent.name", "recipient.name"] "Parent", say ",</p>\n"]

def dearUser (otherwise : String) : List Node :=
  always [say "<p>Dear ", slotOr ["recipient.name", "user.name"] otherwise, say ",</p>\n"]

def regards (paths : List String) : List Node :=
  always [say "<p>Kind regards,<br>", slotOr paths "The school office", say "</p>\n"]

def onPhone : Node := given "school.phone" [say " on ", slot ["school.phone"]]

def leaveDates : List Leaf :=
  [say " from ", slot ["leave.start_date"], say " to ",
    slot ["leave.end_date", "leave.start_date"]]

def subjectOf : Kind → List Leaf
  | .welcome => [say "Welcome to ", slotOr ["school.name"] "our school"]
  | .passwordReset => [say "Reset your ", slotOr ["school.name"] "school", say " password"]
  | .leaveRequestSubmitted => [say "Leave request received for ", student "your child"]
  | .leaveRequestApproved => [say "Leave request approved for ", student "your child"]
  | .leaveRequestRejected => [say "Leave request not approved for ", student "your child"]
  | .announcement =>
      [slotOr ["announcement.title"] "Announcement", say " | ", slot ["school.name"]]
  | .absenceAlert => [say "Absence alert: ", student "your child"]
  | .feeReminder => []
  | .examResult => []

def welcomeBody : List Node :=
  always [say "<h2>Welcome to ", slotOr ["school.name"] "our school", say "</h2>\n"] ++
  dearUser "Parent" ++
  always [say "<p>An account has been created for you on the ", slotOr ["school.name"] "school",
    say " portal.</p>\n"] ++
  [given "user.email" [say "<p>Your sign-in email is <strong>", slot ["user.email"],
      say "</strong>.</p>"],
    .leaf (say "\n"),
    given "login_url" [say "<p><a href=\"", slot ["login_url"],
      say "\">Sign in to your account</a></p>"],
    .leaf (say "\n"),
    given "temporary_password" [say "<p>Your temporary password is <code>",
      slot ["temporary_password"],
      say "</code>. Please change it after your first sign-in.</p>"],
    .leaf (say "\n")] ++
  regards ["school.name"]

def passwordResetBody : List Node :=
  always [say "<h2>Password reset request</h2>\n"] ++
  dearUser "User" ++
  always [say "<p>We received a request to reset the password for your ",
    slotOr ["school.name"] "school", say " account.</p>\n"] ++
  [given "reset_url" [say "<p><a href=\"", slot ["reset_url"],
      say "\">Reset your password</a></p>"],
    .leaf (say "\n"),
    given "expires_in" [say "<p>This link expires in ", slot ["expires_in"], say ".</p>"],
    .leaf (say ("\n<p>If you did not request a password reset, you can safely ignore this " ++
      "email.</p>\n"))] ++
  regards ["school.name"]

def leaveRequestSubmittedBody : List Node :=
  always [say "<h2>Leave request submitted</h2>\n"] ++
  dearParent ++
  always [say "<p>The leave request for <strong>", student "your child",
    say "</strong> has been received and is awaiting review.</p>\n",
    say ("<table role=\"presentation\" cellpadding=\"4\" cellspacing=\"0\">\n" ++
      "<tr><td>From</td><td>"),
    slot ["leave.start_date"], say "</td></tr>\n<tr><td>To</td><td>",
    slot ["leave.end_date", "leave.start_date"], say "</td></tr>\n"] ++
  [given "leave.reason" [say "<tr><td>Reason</td><td>", slot ["leave.reason"],
      say "</td></tr>"],
    .leaf (say ("\n</table>\n<p>You will receive another email once the request has been " ++
      "reviewed.</p>\n"))] ++
  regards ["school.name"]

def leaveRequestApprovedBody : List Node :=
  always [say "<h2>Leave request approved</h2>\n"] ++
  dearParent ++
  always ([say "<p>The leave request for <strong>", student "your child", say "</strong>"] ++
    leaveDates ++ [say " has been <strong>approved</strong>.</p>\n"]) ++
  [given "leave.approver_comment" [say "<p>Comment: ", slot ["leave.approver_comment"],
      say "</p>"],
    .leaf (say "\n"),
    given "leave.approved_by" [say "<p>Approved by ", slot ["leave.approved_by"], say ".</p>"],
    .leaf (say "\n")] ++
  regards ["school.name"]

def leaveRequestRejectedBody : List Node :=
  always [say "<h2>Leave request not approved</h2>\n"] ++
  dearParent ++
  always ([say "<p>The leave request for <strong>", student "your child", say "</strong>"] ++
    leaveDates ++ [say " has <strong>not been approved</strong>.</p>\n"]) ++
  [given "leave.rejection_reason" [say "<p>Reason: ", slot ["leave.rejection_reason"],
      say "</p>"],
    .leaf (say "\n<p>Please contact the school office"),
    onPhone,
    .leaf (say " if you have any questions.</p>\n")] ++
  regards ["school.name"]

def announcementBody : List Node :=
  always [say "<h2>", slotOr ["announcement.title"] "Announcement", say "</h2>\n"] ++
  [given "announcement.image_url" [say "<p>", slot ["announcement.image_url"], say "</p>"]] ++
  always [say "\n<div>", slot ["announcement.body", "announcement.message"], say "</div>\n"] ++
  [given "announcement.date" [say "<p>Date: ", slot ["announcement.date"], say "</p>"],
    .leaf (say "\n"),
    given "announcement.link" [say "<p><a href=\"", slot ["announcement.link"],
      say "\">Read more</a></p>"],
    .leaf (say "\n")] ++
  regards ["announcement.author", "school.name"]

def absenceAlertBody : List Node :=
  always [say "<h2>Absence alert</h2>\n"] ++
  dearParent ++
  [given "student.photo" [say "<p>", slot ["student.photo"], say "</p>"]] ++
  always [say "\n<p><strong>", student "Your child", say "</strong>"] ++
  [given "student.class_name" [say " (", slot ["student.class_name"], say ")"],
    .leaf (say " was marked absent on "),
    .leaf (slotOr ["absence.date"] "today"),
    given "absence.period" [say " during ", slot ["absence.period"]],
    .leaf (say (".</p>\n<p>If you were not aware of this absence, please contact the school " ++
      "office")),
    onPhone,
    .leaf (say " as soon as possible.</p>\n")] ++
  regards ["school.name"]

/-- The body of a kind's template; fee reminders and exam results have none. -/
def bodyOf? : Kind → Option (List Node)
  | .welcome => some welcomeBody
  | .passwordReset => some passwordResetBody
  | .leaveRequestSubmitted => some leaveRequestSubmittedBody
  | .leaveRequestApproved => some leaveRequestApprovedBody
  | .leaveRequestRejected => some leaveRequestRejectedBody
  | .announcement => some announcementBody
  | .absenceAlert => some absenceAlertBody
  | .feeReminder => none
  | .examResult => none

end Builtin

abbrev Registry := Kind → Option Builtin

namespace Registry

def empty : Registry := fun _ => none

def standard : Registry := fun kind =>
  (Builtin.bodyOf? kind).map fun body =>
    Builtin.ofPatterns (String.ofList (Template.write (Builtin.always (Builtin.subjectOf kind))))
      (String.ofList (Template.write body))

def register (registry : Registry) (kind : Kind) (builtin : Builtin) : Registry :=
  fun other => if other = kind then some builtin else registry other

end Registry

end SchoolNotice
