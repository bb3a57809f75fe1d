import SchoolNotice.Mail.Smtp

/-!
Sending a mail through the SES service: one request with the mail as data, answered with a status
and data. An answer without an identifier counts as sent, with an empty identifier and a warning.
-/

namespace SchoolNotice.Ses

structure Response where
  status : Nat
  body : Json

def content (text : String) : Json :=
  Json.ofMembers [("Data", .string text), ("Charset", .string "UTF-8")]

def request (usualSender : String) (email : Email) : Json :=
  Json.ofMembers
    [("FromEmailAddress", .string (email.senderAddress usualSender)),
      ("Destination", Json.ofMembers [("ToAddresses", .array [.string email.recipient])]),
      ("Content", Json.ofMembers
        [("Simple", Json.ofMembers
          [("Subject", content email.subject),
            ("Body", Json.ofMembers [("Html", content email.html)])])])]

/-- The identifier in an answer, empty if it has none; nothing if the answer cannot be read. -/
def messageId? (body : Json) : Option String :=
  match body with
  | .object members =>
      match Json.Members.get? "MessageId" members with
      | none => some ""
      | some .null => some ""
      | some (.string text) => some text
      | some _ => none
  | _ => none

def refused : SendError := .sendFailed "SES 送信失敗: service error"

def Response.accepted (response : Response) : Bool := 200 ≤ response.status && response.status < 300

def reply (response : Response) (email : Email) : Reply × List Event :=
  if response.accepted then
    match messageId? response.body with
    | none => (.error refused, [])
    | some id => (.ok id, if id = "" then [.messageIdMissing email.recipient] else [])
  else (.error refused, [])

end SchoolNotice.Ses
