import SchoolNotice.Json.Basic

/-!
Data text as written: members in written order with their repetitions, and the places marked where
a numeral is too large or a string holds half of a surrogate pair. Such a value can still be
passed over; it only has no meaning as data. `toJson?` gives the meaning.
-/

namespace SchoolNotice.Json

inductive Written where
  | null
  | bool (value : Bool)
  /-- A numeral; nothing if it is too large. -/
  | number (value : Option Number)
  /-- A string; nothing if it holds half of a surrogate pair. -/
  | string (text : Option String)
  | array (items : List Written)
  | object (members : List (Option String × Written))
deriving Inhabited

namespace Written

/-- How deep arrays and objects may stand in each other. -/
def deepest : Nat := 127

mutual

/-- The data a written value stands for, with at most `depth` levels of arrays and objects. -/
def toJson? (depth : Nat) : Written → Option Json
  | .null => some .null
  | .bool value => some (.bool value)
  | .number value => value.map .number
  | .string text => text.map .string
  | .array items =>
      if depth = 0 then none else (itemsToJson? (depth - 1) items).map .array
  | .object members =>
      if depth = 0 then none
      else (membersToJson? (depth - 1) members).map ofMembers

def itemsToJson? (depth : Nat) : List Written → Option (List Json)
  | [] => some []
  | item :: rest => do
      let value ← toJson? depth item
      let values ← itemsToJson? depth rest
      some (value :: values)

def membersToJson? (depth : Nat) : List (Option String × Written) → Option (List (String × Json))
  | [] => some []
  | (key, item) :: rest => do
      let name ← key
      let value ← toJson? depth item
      let values ← membersToJson? depth rest
      some ((name, value) :: values)

end

mutual

def ofJson : Json → Written
  | .null => .null
  | .bool value => .bool value
  | .number value => .number (some value)
  | .string text => .string (some text)
  | .array items => .array (ofItems items)
  | .object members => .object (ofMembers members)

def ofItems : List Json → List Written
  | [] => []
  | item :: rest => ofJson item :: ofItems rest

def ofMembers : List (String × Json) → List (Option String × Written)
  | [] => []
  | (key, value) :: rest => (some key, ofJson value) :: ofMembers rest

end

def text? : Written → Option String
  | .string text => text
  | _ => none

/-- The name of a case without data: the name alone, or an object of the name and null. -/
def caseName? : Written → Option String
  | .string text => text
  | .object [(key, .null)] => key
  | _ => none

/-- The fields of a record, each nothing where it is missing: from an object, in which other keys
are passed over and none of these may be repeated, or from an array of the fields in order. -/
def record? (names : List String) : Written → Option (List (Option Written))
  | .object members =>
      if members.any (fun member => member.1.isNone) then none
      else
        names.mapM fun name =>
          match members.filter (fun member => member.1 == some name) with
          | [] => some none
          | [member] => some (some member.2)
          | _ => none
  | .array items =>
      if names.length < items.length then none
      else some (items.map some ++ List.replicate (names.length - items.length) none)
  | _ => none

end Written

end SchoolNotice.Json
