import SchoolNotice.Text.Blank

/-!
What is known of a tenant: a name that is neither empty nor longer than 255 characters, and contact
details, each a text that is not empty. Text from outside is trimmed first, so a blank one counts
as none.
-/

namespace SchoolNotice

/-- A value that breaks a rule of the domain; the message says which. -/
inductive ValidationError where
  | tenantNameMissing
  | tenantNameTooLong
  | versionZero
  | versionNegative (value : Int)
  | other (text : String)
deriving DecidableEq, Repr

namespace ValidationError

def detail : ValidationError → String
  | .tenantNameMissing => "テナント名は必須です"
  | .tenantNameTooLong => "テナント名は 255 文字以内である必要があります"
  | .versionZero => "バージョン番号は 1 以上である必要があります"
  | .versionNegative value => "バージョン番号が負数です: " ++ toString value
  | .other text => text

def message (error : ValidationError) : String := "バリデーションエラー: " ++ error.detail

end ValidationError

structure Filled where
  text : String
  filled : text ≠ ""
deriving DecidableEq, Repr

namespace Filled

/-- The text between the blanks at its ends, if there is any. -/
def ofText? (text : String) : Option Filled :=
  if filled : Text.trimmed text ≠ "" then some ⟨Text.trimmed text, filled⟩ else none

end Filled

/-- The name of a tenant: at most 255 characters and not empty. -/
structure TenantName where
  text : String
  filled : text ≠ ""
  short : text.length ≤ 255
deriving DecidableEq, Repr

namespace TenantName

def ofText (text : String) : Except ValidationError TenantName :=
  let name := Text.trimmed text
  if filled : name ≠ "" then
    if short : name.length ≤ 255 then .ok ⟨name, filled, short⟩ else .error .tenantNameTooLong
  else .error .tenantNameMissing

end TenantName

structure Profile where
  name : TenantName
  address : Option Filled
  email : Option Filled
  phone : Option Filled
  logoUrl : Option Filled
deriving DecidableEq, Repr

namespace Profile

def ofName (name : TenantName) : Profile := ⟨name, none, none, none, none⟩

def ofFields (name : TenantName) (address email phone logoUrl : Option String) : Profile :=
  ⟨name, address.bind Filled.ofText?, email.bind Filled.ofText?, phone.bind Filled.ofText?,
    logoUrl.bind Filled.ofText?⟩

def withAddress (profile : Profile) (address : String) : Profile :=
  { profile with address := Filled.ofText? address }

def withEmail (profile : Profile) (email : String) : Profile :=
  { profile with email := Filled.ofText? email }

def withPhone (profile : Profile) (phone : String) : Profile :=
  { profile with phone := Filled.ofText? phone }

def withLogoUrl (profile : Profile) (logoUrl : String) : Profile :=
  { profile with logoUrl := Filled.ofText? logoUrl }

/-- The fields under the keys they have in a context, in the order in which they are filled in. -/
def fields (profile : Profile) : List (String × Option String) :=
  [("name", some profile.name.text), ("address", profile.address.map Filled.text),
    ("email", profile.email.map Filled.text), ("phone", profile.phone.map Filled.text),
    ("logo_url", profile.logoUrl.map Filled.text)]

end Profile

/-- What a page shows of a tenant; the name is empty where it is not known. -/
structure Branding where
  tenantName : String
  logoUrl : Option String
  address : Option String
  phone : Option String
  email : Option String
deriving DecidableEq, Repr

namespace Branding

def ofProfile (profile : Profile) : Branding :=
  { tenantName := profile.name.text
    logoUrl := profile.logoUrl.map Filled.text
    address := profile.address.map Filled.text
    phone := profile.phone.map Filled.text
    email := profile.email.map Filled.text }

end Branding

end SchoolNotice
