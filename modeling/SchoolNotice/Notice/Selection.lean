import SchoolNotice.Delivery.Fault
import SchoolNotice.Notice.Builtin
import SchoolNotice.Notice.Stored

/-!
The template that a notice is made from: a stored one if the tenant has any, else the program's own.
A store that fails is an error, whatever the program has.
-/

namespace SchoolNotice

inductive Selected where
  | stored (template : StoredTemplate)
  | builtin (template : Builtin)
deriving DecidableEq, Repr

namespace Selected

def source : Selected → Source
  | .stored _ => .stored
  | .builtin _ => .builtin

def subject : Selected → String
  | .stored template => template.subject
  | .builtin template => template.subject

def body : Selected → String
  | .stored template => template.body
  | .builtin template => template.body

def theme : Selected → Theme
  | .stored template => template.theme
  | .builtin template => template.theme

def choose (registry : Registry) (tenant : Uuid) (kind : Kind)
    (found : Except StoreError (List StoredTemplate)) : Except DeliveryError Selected :=
  match found with
  | .error error => .error (.templateLookup error)
  | .ok templates =>
      match StoredTemplate.pick? templates with
      | some template => .ok (.stored template)
      | none =>
          match registry kind with
          | some template => .ok (.builtin template)
          | none => .error (.templateNotFound tenant kind)

end Selected

end SchoolNotice
