import SchoolNotice.Delivery.Dispatcher
import SchoolNotice.Json.Reader

/-!
The job of the worker, read from data text: a tenant, a kind of notice, perhaps a sender's address,
and the recipients with their data. Records may be written as objects or as arrays of their fields.
-/

namespace SchoolNotice

open Json (Written)

namespace Recipient

/-- Data inside a recipient stands in three containers already. -/
def contextDepth : Nat := Written.deepest - 3

def ofWritten? (written : Written) : Option Recipient := do
  match ← written.record? ["to", "context"] with
  | [some address, none] => some ⟨← address.text?, Context.empty⟩
  | [some address, some context] =>
      some ⟨← address.text?, Context.ofJson (← context.toJson? contextDepth)⟩
  | _ => none

def listOfWritten? : Written → Option (List Recipient)
  | .array items => items.mapM ofWritten?
  | _ => none

end Recipient

structure Job where
  notice : Notice
  sender : Option String
  recipients : List Recipient

namespace Job

/-- An optional text: missing and null mean none. -/
def optionalText? : Option Written → Option (Option String)
  | none => some none
  | some .null => some none
  | some written => written.text?.map some

def ofWritten? (written : Written) : Option Job := do
  match ← written.record? ["tenant_id", "template_type", "from", "recipients"] with
  | [some tenant, some kind, sender, some recipients] =>
      let tenant ← Uuid.ofText? (← tenant.text?)
      let kind ← Kind.ofName? (← kind.caseName?)
      some ⟨⟨tenant, kind⟩, ← optionalText? sender, ← Recipient.listOfWritten? recipients⟩
  | _ => none

def read? (text : String) : Option Job := (Written.read? text).bind ofWritten?

end Job

end SchoolNotice
