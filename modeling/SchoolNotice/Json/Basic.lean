import SchoolNotice.Number.Numeral

/-!
Data values. The members of an object are pairs in the order of their keys, which is the order of
the keys' characters by code point; `insert` keeps it, and `Canonical` says that it holds at every
depth.
-/

namespace SchoolNotice

inductive Json where
  | null
  | bool (value : Bool)
  | number (value : Number)
  | string (value : String)
  | array (items : List Json)
  | object (members : List (String × Json))
deriving Inhabited, Repr

namespace Json

/-- The members of an object, in order of their keys. -/
abbrev Members := List (String × Json)

namespace Members

def get? (key : String) : Members → Option Json
  | [] => none
  | (name, value) :: rest => if name = key then some value else get? key rest

def insert (key : String) (value : Json) : Members → Members
  | [] => [(key, value)]
  | (name, old) :: rest =>
      if key < name then (key, value) :: (name, old) :: rest
      else if name = key then (key, value) :: rest
      else (name, old) :: insert key value rest

/-- Of several values for one key the last one stays. -/
def ofList (pairs : List (String × Json)) : Members :=
  pairs.foldl (fun members pair => Members.insert pair.1 pair.2 members) []

def keys (members : Members) : List String := members.map Prod.fst

/-- The keys grow strictly, so that none is there twice. -/
def Sorted (members : Members) : Prop := members.keys.Pairwise (· < ·)

theorem get_insert_self (key : String) (value : Json) (members : Members) :
    get? key (insert key value members) = some value := by
  induction members with
  | nil => simp [insert, get?]
  | cons member rest induction =>
      obtain ⟨name, old⟩ := member
      unfold insert
      split
      · simp [get?]
      · split
        · simp [get?]
        · rename_i different
          simp [get?, different, induction]

theorem get_insert_ne {key other : String} (different : key ≠ other) (value : Json)
    (members : Members) : get? other (insert key value members) = get? other members := by
  induction members with
  | nil => simp [insert, get?, different]
  | cons member rest induction =>
      obtain ⟨name, old⟩ := member
      unfold insert
      split
      · simp [get?, different]
      · split
        · rename_i same
          subst same
          simp [get?, different]
        · simp [get?, induction]

theorem insert_again (key : String) (value old : Json) (members : Members) :
    insert key value (insert key old members) = insert key value members := by
  induction members with
  | nil => simp [insert]
  | cons member rest induction =>
      obtain ⟨name, present⟩ := member
      by_cases before : key < name
      · simp [insert, before]
      · by_cases same : name = key
        · simp [insert, same]
        · simp [insert, before, same, induction]

theorem mem_keys_insert {key name : String} {value : Json} {members : Members} :
    name ∈ (insert key value members).keys ↔ name = key ∨ name ∈ members.keys := by
  induction members with
  | nil => simp [insert, keys]
  | cons member rest induction =>
      obtain ⟨first, old⟩ := member
      unfold insert
      split
      · simp [keys]
      · split
        · rename_i same
          subst same
          simp [keys]
        · simp only [keys, List.map_cons, List.mem_cons] at induction ⊢
          rw [induction]
          exact or_left_comm

theorem sorted_insert (key : String) (value : Json) {members : Members}
    (sorted : Sorted members) : Sorted (insert key value members) := by
  induction members with
  | nil => simp [insert, Sorted, keys]
  | cons member rest induction =>
      obtain ⟨name, old⟩ := member
      simp only [Sorted, keys, List.map_cons, List.pairwise_cons] at sorted
      obtain ⟨least, tail⟩ := sorted
      unfold insert
      split
      · rename_i before
        simp only [Sorted, keys, List.map_cons, List.pairwise_cons, List.mem_cons]
        refine ⟨?_, least, tail⟩
        rintro other (rfl | member)
        · exact before
        · exact String.lt_trans before (least other member)
      · rename_i notBefore
        split
        · rename_i same
          subst same
          simp only [Sorted, keys, List.map_cons, List.pairwise_cons]
          exact ⟨least, tail⟩
        · rename_i different
          simp only [Sorted, keys, List.map_cons, List.pairwise_cons]
          refine ⟨?_, induction tail⟩
          intro other member
          rcases mem_keys_insert.1 member with rfl | member
          · exact Decidable.byContradiction fun notAfter =>
              different (String.le_antisymm (String.not_lt.1 notBefore) (String.not_lt.1 notAfter))
          · exact least other member

theorem sorted_of_list (pairs : List (String × Json)) : Sorted (ofList pairs) := by
  suffices kept : ∀ members, Sorted members →
      Sorted (pairs.foldl (fun members pair => insert pair.1 pair.2 members) members) from
    kept [] List.Pairwise.nil
  induction pairs with
  | nil => exact fun members sorted => sorted
  | cons pair rest induction =>
      intro members sorted
      exact induction _ (sorted_insert pair.1 pair.2 sorted)

end Members

mutual

/-- Every object inside has its keys in strictly growing order. -/
def Canonical : Json → Prop
  | .array items => CanonicalItems items
  | .object members => Members.Sorted members ∧ CanonicalMembers members
  | _ => True

def CanonicalItems : List Json → Prop
  | [] => True
  | item :: rest => Canonical item ∧ CanonicalItems rest

def CanonicalMembers : List (String × Json) → Prop
  | [] => True
  | (_, value) :: rest => Canonical value ∧ CanonicalMembers rest

end

def ofMembers (pairs : List (String × Json)) : Json := .object (Members.ofList pairs)

def ofNat (value : Nat) : Json := .number (.integer value)

def ofOption (value : Option String) : Json := value.elim .null .string

def get? (key : String) : Json → Option Json
  | .object members => Members.get? key members
  | _ => none

def asString? : Json → Option String
  | .string value => some value
  | _ => none

/-- What counts as true in a condition: everything but nothing, false, zero and empty text. -/
def isTruthy : Json → Bool
  | .null => false
  | .bool value => value
  | .number value => !value.isZero
  | .string value => value != ""
  | .array _ => true
  | .object _ => true

end Json

end SchoolNotice
