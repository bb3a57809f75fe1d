import SchoolNotice.Delivery.Event
import SchoolNotice.Notice.Email
import SchoolNotice.Notice.Stored

/-!
What a delivery calls upon: a directory of tenants, a store of templates, a mailer and a log, and
beside them a clock, the log of events and the switch that cancels all deliveries. Every call may
change the state that the services share.
-/

namespace SchoolNotice

/-- The record of one delivery that reached the mailer. -/
structure LogEntry where
  tenant : Uuid
  kind : Kind
  source : Source
  recipient : String
  subject : String
  status : Status
  error : Option String
  messageId : Option String
  sentAt : Instant
deriving DecidableEq, Repr

abbrev Reply := Except SendError String

class Services (σ : Type) where
  /-- Whether deliveries have been cancelled. -/
  cancelled : σ → Bool
  note : Event → σ → σ
  now : σ → Instant
  findProfile : Uuid → σ → Except StoreError (Option Profile) × σ
  findActive : Uuid → Kind → σ → Except StoreError (List StoredTemplate) × σ
  /-- Hands a mail over. Without a reply the mail is under way. -/
  post : Email → σ → Option Reply × σ
  /-- The reply for a mail that was under way. -/
  collect : Email → σ → Reply × σ
  insertLog : LogEntry → σ → Except StoreError Unit × σ
  /-- Lets time pass until mails under way have their replies or deliveries are cancelled. -/
  wait : σ → σ

end SchoolNotice
