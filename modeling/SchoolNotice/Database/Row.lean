import SchoolNotice.Delivery.Fault
import SchoolNotice.Notice.Stored

/-!
Rows of the database and the values they stand for. A row that breaks a rule of the domain is an
error, and one such row makes the whole answer an error.
-/

namespace SchoolNotice.Database

structure TemplateRow where
  id : Uuid
  tenant : Uuid
  templateType : String
  subject : String
  body : String
  themeId : String
  active : Bool
  isDefault : Bool
  version : Int
  updatedAt : Instant
deriving DecidableEq, Repr

namespace TemplateRow

def unknownType (name : String) : StoreError :=
  .invalidData ("template_type \x27" ++ name ++ "\x27: " ++ Kind.unknownName)

/-- The template of a row. Its type is checked before its version. -/
def decode (row : TemplateRow) : Except StoreError StoredTemplate :=
  match Kind.ofName? row.templateType with
  | none => .error (unknownType row.templateType)
  | some kind =>
      match Version.ofInt row.version with
      | .error error => .error (.ofValidation error)
      | .ok version =>
          .ok
            { id := row.id
              tenant := row.tenant
              kind := kind
              subject := row.subject
              body := row.body
              theme := Theme.ofStored row.themeId
              active := row.active
              isDefault := row.isDefault
              version := version
              updatedAt := row.updatedAt }

/-- The templates of all rows, or the error of the first row that has one. -/
def decodeAll : List TemplateRow → Except StoreError (List StoredTemplate)
  | [] => .ok []
  | row :: rest =>
      match row.decode with
      | .error error => .error error
      | .ok template =>
          match decodeAll rest with
          | .error error => .error error
          | .ok templates => .ok (template :: templates)

end TemplateRow

structure TenantRow where
  name : String
  address : Option String
  contactEmail : Option String
  contactPhone : Option String
  logoUrl : Option String
deriving DecidableEq, Repr

namespace TenantRow

def decode (row : TenantRow) : Except StoreError Profile :=
  match TenantName.ofText row.name with
  | .error error => .error (.ofValidation error)
  | .ok name =>
      .ok (Profile.ofFields name row.address row.contactEmail row.contactPhone row.logoUrl)

end TenantRow

end SchoolNotice.Database
