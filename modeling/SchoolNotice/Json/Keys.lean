import SchoolNotice.Json.Basic
import SchoolNotice.Text.KeyCase

/-!
The keys of a value at every depth: a property that all of them have, and two values that differ in
the spelling of their keys only.
-/

namespace SchoolNotice.Json

open SchoolNotice.Text

mutual

def AllKeys (property : String → Prop) : Json → Prop
  | .array items => AllKeysItems property items
  | .object members => AllKeysMembers property members
  | _ => True

def AllKeysItems (property : String → Prop) : List Json → Prop
  | [] => True
  | item :: rest => AllKeys property item ∧ AllKeysItems property rest

def AllKeysMembers (property : String → Prop) : List (String × Json) → Prop
  | [] => True
  | (key, value) :: rest =>
      property key ∧ AllKeys property value ∧ AllKeysMembers property rest

end

mutual

/-- The second value is the first with some of its keys written in camel case. -/
inductive Respelled : Json → Json → Prop
  | null : Respelled .null .null
  | bool (value : Bool) : Respelled (.bool value) (.bool value)
  | number (value : Number) : Respelled (.number value) (.number value)
  | string (value : String) : Respelled (.string value) (.string value)
  | array {items others : List Json} : RespelledItems items others →
      Respelled (.array items) (.array others)
  | object {members others : List (String × Json)} : RespelledMembers members others →
      Respelled (.object members) (ofMembers others)

inductive RespelledItems : List Json → List Json → Prop
  | nil : RespelledItems [] []
  | cons {item other : Json} {rest others : List Json} : Respelled item other →
      RespelledItems rest others → RespelledItems (item :: rest) (other :: others)

inductive RespelledMembers : List (String × Json) → List (String × Json) → Prop
  | nil : RespelledMembers [] []
  | keep {key : String} {value other : Json} {rest others : List (String × Json)} :
      Respelled value other → RespelledMembers rest others →
      RespelledMembers ((key, value) :: rest) ((key, other) :: others)
  | respell {key : String} {value other : Json} {rest others : List (String × Json)} :
      Respelled value other → RespelledMembers rest others →
      RespelledMembers ((key, value) :: rest) ((KeyCase.camelKey key, other) :: others)

end

end SchoolNotice.Json
