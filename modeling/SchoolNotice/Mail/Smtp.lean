import SchoolNotice.Delivery.Services
import SchoolNotice.Mail.Mailbox

/-!
Sending a mail to a server by SMTP: the sender's address is checked first, then the recipient's,
then the mail is put together, and last the server is asked, command by command. The identifier of a
message has the domain of its sender.
-/

namespace SchoolNotice

def Email.senderAddress (email : Email) (usual : String) : String :=
  (email.sender.bind Text.nonBlank?).getD usual

namespace Smtp

inductive Verb where
  | hello
  | mail
  | recipient
  | data
deriving DecidableEq, Repr

namespace Verb

def all : List Verb := [.hello, .mail, .recipient, .data]

def name : Verb → String
  | .hello => "EHLO"
  | .mail => "MAIL"
  | .recipient => "RCPT"
  | .data => "DATA"

def ofName? (name : String) : Option Verb := all.find? fun verb => verb.name == name

end Verb

structure Server where
  refused : List Verb
deriving DecidableEq, Repr

structure Transmission where
  envelopeSender : String
  envelopeRecipients : List String
  sender : String
  recipient : String
  subject : String
  contentType : String
  messageId : String
  body : String
deriving DecidableEq, Repr

def connectionRefused : SendError := .sendFailed "SMTP 送信失敗: Connection error"

def commandRefused : SendError := .sendFailed "SMTP 送信失敗: permanent error (550)"

def badSender : SendError := .invalidAddress "送信元アドレス不正: Invalid input"

def badRecipient : SendError := .invalidAddress "宛先アドレス不正: Invalid input"

def unreadable : SendError := .sendFailed "メッセージ構築失敗: missing address"

/-- A mail on its way: the addresses of its envelope are read from its header, which does not work
where the user of an address is still in quotes there and what they say is no user. -/
def transmission? (sender recipient : Mailbox) (messageId : String) (email : Email) :
    Option Transmission := do
  let envelopeSender ← Mailbox.ofText? sender.text
  let envelopeRecipient ← Mailbox.ofText? recipient.text
  some
    { envelopeSender := envelopeSender.address
      envelopeRecipients := [envelopeRecipient.address]
      sender := sender.text
      recipient := recipient.text
      subject := email.subject
      contentType := "text/html; charset=utf-8"
      messageId := messageId
      body := email.html }

/-- Hands a mail over to a server. Without a server nothing can be reached. -/
def deliver (server : Option Server) (mail : Transmission) : Reply × Option Transmission :=
  match server with
  | none => (.error connectionRefused, none)
  | some server =>
      if Verb.all.any fun verb => server.refused.contains verb then (.error commandRefused, none)
      else (.ok mail.messageId, some mail)

def send (server : Option Server) (usualSender freshId : String) (email : Email) :
    Reply × Option Transmission :=
  match Mailbox.ofText? (email.senderAddress usualSender) with
  | none => (.error badSender, none)
  | some sender =>
      match Mailbox.ofText? email.recipient with
      | none => (.error badRecipient, none)
      | some recipient =>
          let messageId := "<" ++ freshId ++ "@" ++ sender.domain ++ ">"
          match transmission? sender recipient messageId email with
          | none => (.error unreadable, none)
          | some mail => deliver server mail

end Smtp

end SchoolNotice
