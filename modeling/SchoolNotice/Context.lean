import SchoolNotice.Json.Path
import SchoolNotice.Tenant.Profile

/-!
The data a notice is filled from. Keys are folded to snake case when data comes in, and the keys of
a path when it is looked up, so both spellings of a key lead to one value. `withMissingSchoolFields`
completes the branding under `school` from a tenant's profile and overwrites nothing.
-/

namespace SchoolNotice

open SchoolNotice.Text

namespace Json

namespace Members

def insertAbsent (key : String) (value : Json) (members : Members) : Members :=
  if (Members.get? key members).isSome then members else Members.insert key value members

/-- Renames the keys to snake case. A key that is already so spelled keeps its value; of several
others with one image the first counts. -/
def renamed (members : Members) : Members :=
  let kept := members.filter fun member => KeyCase.snakeKey member.1 == member.1
  let changed := members.filter fun member => KeyCase.snakeKey member.1 != member.1
  changed.foldl
    (fun folded member => insertAbsent (KeyCase.snakeKey member.1) member.2 folded) kept

end Members

mutual

def foldKeys : Json → Json
  | .null => .null
  | .bool value => .bool value
  | .number value => .number value
  | .string value => .string value
  | .array items => .array (foldItems items)
  | .object members => .object (Members.renamed (foldMembers members))

def foldItems : List Json → List Json
  | [] => []
  | item :: rest => foldKeys item :: foldItems rest

def foldMembers : List (String × Json) → List (String × Json)
  | [] => []
  | (key, value) :: rest => (key, foldKeys value) :: foldMembers rest

end

end Json

/-- The data of one notice: the members of its outermost object. -/
structure Context where
  members : Json.Members
deriving Inhabited, Repr

namespace Context

def empty : Context := ⟨[]⟩

/-- A context from any data; what is not an object gives an empty one. -/
def ofJson (data : Json) : Context :=
  match Json.foldKeys data with
  | .object members => ⟨members⟩
  | _ => empty

def toJson (context : Context) : Json := .object context.members

def insert (context : Context) (key : String) (value : Json) : Context :=
  ⟨Json.Members.insert (KeyCase.snakeKey key) (Json.foldKeys value) context.members⟩

def foldPath (path : List Char) : List Char :=
  List.intercalate ['.'] ((split '.' path).map KeyCase.snake)

/-- The value at a path in either spelling. -/
def resolve? (context : Context) (path : List Char) : Option Json :=
  Json.resolve? (foldPath path) context.toJson

/-- The text at a path, unless it is empty. -/
def text? (context : Context) (path : List Char) : Option String :=
  match context.resolve? path with
  | some (.string text) => if text = "" then none else some text
  | _ => none

def schoolText? (context : Context) (field : String) : Option String :=
  context.text? ("school.".toList ++ field.toList)

def brandingFields : List String := ["name", "logo_url", "address", "phone", "email"]

/-- Whether every field that a page shows of the school is filled. -/
def hasCompleteBranding (context : Context) : Bool :=
  brandingFields.all fun field => (context.schoolText? field).isSome

def branding (context : Context) : Branding :=
  { tenantName := (context.schoolText? "name").getD ""
    logoUrl := context.schoolText? "logo_url"
    address := context.schoolText? "address"
    phone := context.schoolText? "phone"
    email := context.schoolText? "email" }

/-- A field is missing if it is absent, null or empty. -/
def isMissing : Option Json → Bool
  | none => true
  | some .null => true
  | some (.string text) => text == ""
  | some _ => false

def fillField (school : Json.Members) (field : String × Option String) : Json.Members :=
  match field.2 with
  | none => school
  | some text =>
      if isMissing (Json.Members.get? field.1 school) then
        Json.Members.insert field.1 (.string text) school
      else school

def school (context : Context) : Json.Members :=
  match Json.Members.get? "school" context.members with
  | some (.object members) => members
  | _ => []

def withMissingSchoolFields (context : Context) (profile : Profile) : Context :=
  ⟨Json.Members.insert "school" (.object (profile.fields.foldl fillField context.school))
    context.members⟩

def ofProfile (profile : Profile) : Context := empty.withMissingSchoolFields profile

end Context

end SchoolNotice
