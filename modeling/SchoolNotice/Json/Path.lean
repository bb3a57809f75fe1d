import SchoolNotice.Json.Basic
import SchoolNotice.Text.Cut
import SchoolNotice.Text.KeyCase

/-!
Dotted paths into data. At each object the key is looked up as it stands and then, once, in its
other spelling; anything but an object ends the walk.
-/

namespace SchoolNotice.Json

open SchoolNotice.Text

/-- The member under a key or under its other spelling. -/
def hop (key : List Char) (members : Members) : Option Json :=
  match Members.get? (String.ofList key) members with
  | some value => some value
  | none =>
      match KeyCase.alternate key with
      | some other => Members.get? (String.ofList other) members
      | none => none

theorem hop_eq (key : List Char) (members : Members) :
    hop key members = (Members.get? (String.ofList key) members).or
      ((KeyCase.alternate key).bind fun other => Members.get? (String.ofList other) members) := by
  unfold hop
  cases Members.get? (String.ofList key) members with
  | some value => rfl
  | none => cases KeyCase.alternate key <;> rfl

def descend : List (List Char) → Json → Option Json
  | [], value => some value
  | key :: rest, .object members => (hop key members).bind (descend rest)
  | _ :: _, _ => none

/-- Follows a list of keys down from a value, each in exactly this spelling. -/
def walk : List (List Char) → Json → Option Json
  | [], value => some value
  | key :: rest, .object members =>
      (Members.get? (String.ofList key) members).bind (walk rest)
  | _ :: _, _ => none

def resolve? (path : List Char) (root : Json) : Option Json := descend (split '.' path) root

end SchoolNotice.Json
