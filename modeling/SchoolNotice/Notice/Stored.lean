import SchoolNotice.Notice.Kind
import SchoolNotice.Tenant.Profile
import SchoolNotice.Tenant.Uuid
import SchoolNotice.Theme

/-!
Templates that tenants store, with the version and the time of their last change, and the order in
which a store lists them: default ones first, then the latest first.
-/

namespace SchoolNotice

/-- A version number, at least one. -/
structure Version where
  number : Nat
  positive : 0 < number
deriving DecidableEq, Repr

namespace Version

def initial : Version := ⟨1, by decide⟩

def ofNat (number : Nat) : Except ValidationError Version :=
  if positive : 0 < number then .ok ⟨number, positive⟩ else .error .versionZero

def ofInt (number : Int) : Except ValidationError Version :=
  if number < 0 then .error (.versionNegative number) else ofNat number.toNat

def text (version : Version) : String := "v" ++ toString version.number

end Version

structure Instant where
  seconds : Int
  nanos : Nat
deriving DecidableEq, Inhabited, Repr

namespace Instant

def le (first second : Instant) : Bool :=
  first.seconds < second.seconds || (first.seconds == second.seconds && first.nanos ≤ second.nanos)

end Instant

structure StoredTemplate where
  id : Uuid
  tenant : Uuid
  kind : Kind
  subject : String
  body : String
  theme : Theme
  active : Bool
  isDefault : Bool
  version : Version
  updatedAt : Instant
deriving DecidableEq, Repr

namespace StoredTemplate

/-- The first stands before the second in a list, or they may stand in either order. -/
def listedBefore (first second : StoredTemplate) : Bool :=
  if first.isDefault = second.isDefault then second.updatedAt.le first.updatedAt
  else first.isDefault

def offers (tenant : Uuid) (kind : Kind) (template : StoredTemplate) : Bool :=
  template.tenant == tenant && template.kind == kind && template.active

/-- The active templates of a tenant and a kind in listing order; equals keep their order. -/
def activeFor (tenant : Uuid) (kind : Kind) (templates : List StoredTemplate) :
    List StoredTemplate :=
  (templates.filter (offers tenant kind)).mergeSort listedBefore

/-- The latest of the templates, of equally late ones the last in the list. -/
def latest? (templates : List StoredTemplate) : Option StoredTemplate :=
  templates.foldl
    (fun best template =>
      match best with
      | none => some template
      | some found =>
          if found.updatedAt.le template.updatedAt then some template else some found)
    none

/-- The template to use: the latest default one, or else the latest one. -/
def pick? (templates : List StoredTemplate) : Option StoredTemplate :=
  match latest? (templates.filter fun template => template.isDefault) with
  | some template => some template
  | none => latest? (templates.filter fun template => !template.isDefault)

end StoredTemplate

end SchoolNotice
