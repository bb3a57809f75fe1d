import Mathlib.Data.List.Forall2
import SchoolNotice.Proofs.Number.Natural
import SchoolNotice.Proofs.Text.LetterCase
import SchoolNotice.Settings

/-!
Variables and what they say. A variable is unset if it has no value or a blank one. What a setting is then, is its
default; else the value of the variable must mean it: a number, the name of a backend, or the value itself.
-/

namespace SchoolNotice

open SchoolNotice.Text

/-- The word is the backend's name, each letter small or capital. -/
def Backend.Named (backend : Backend) (word : List Char) : Prop :=
  List.Forall₂ (fun letter char => char = letter ∨ char = letter.toUpper) backend.name.toList word

namespace Settings

section Statements

variable (lookup : String → Option String)

structure Holds (name value : String) : Prop where
  found : lookup name = some value
  filled : ∃ char ∈ value.toList, isBlank char = false

/-- The variable has no value or a blank one. -/
def Unset (name : String) : Prop :=
  ∀ value, lookup name = some value → ∀ char ∈ value.toList, isBlank char = true

/-- A setting is what the value of its variable means, and the default if the variable is unset. -/
inductive Taken {Setting : Type} (name : String) (default : Setting)
    (means : String → Setting → Prop) : Setting → Prop
  | unset (unset : Unset lookup name) : Taken name default means default
  | held {value : String} {setting : Setting} (holds : Holds lookup name value)
      (meant : means value setting) : Taken name default means setting

end Statements

/-! ## Whether a variable is set -/

section Variables

variable {lookup : String → Option String} {name value : String}

def given? (lookup : String → Option String) (name : String) : Option String :=
  (lookup name).bind nonBlank?

theorem non_blank_eq_some {text filled : String} :
    nonBlank? text = some filled ↔ text = filled ∧ ∃ char ∈ filled.toList, isBlank char = false := by
  rw [nonBlank?, Option.ite_none_left_eq_some, Option.some_inj, and_comm]
  apply and_congr_right
  rintro rfl
  rw [isBlankText, Bool.not_eq_true, List.all_eq_false]
  simp only [Bool.not_eq_true]

theorem given_eq_some : given? lookup name = some value ↔ Holds lookup name value := by
  rw [given?, Option.bind_eq_some_iff]
  constructor
  · rintro ⟨text, found, filled⟩
    obtain ⟨rfl, filled⟩ := non_blank_eq_some.mp filled
    exact ⟨found, filled⟩
  · intro holds
    exact ⟨value, holds.found, non_blank_eq_some.mpr ⟨rfl, holds.filled⟩⟩

theorem given_eq_none : given? lookup name = none ↔ Unset lookup name := by
  rw [Option.eq_none_iff_forall_ne_some]
  constructor
  · intro none value found char inside
    rw [← Bool.not_eq_false]
    intro filled
    exact none value (given_eq_some.mpr ⟨found, char, inside, filled⟩)
  · intro unset value given
    obtain ⟨found, char, inside, filled⟩ := given_eq_some.mp given
    rw [unset value found char inside] at filled
    cases filled

instance : Decidable (Unset lookup name) := decidable_of_iff (given? lookup name = none) given_eq_none

theorem Holds.same {other : String} (holds : Holds lookup name value)
    (also : Holds lookup name other) : other = value :=
  Option.some.inj (also.found.symm.trans holds.found)

theorem Unset.not_holds (unset : Unset lookup name) : ¬Holds lookup name value := by
  rw [← given_eq_none] at unset
  rw [← given_eq_some, unset]
  exact nofun

theorem unset_or_holds (lookup : String → Option String) (name : String) :
    Unset lookup name ∨ ∃ value, Holds lookup name value := by
  cases given : given? lookup name with
  | none => exact .inl (given_eq_none.mp given)
  | some value => exact .inr ⟨value, given_eq_some.mp given⟩

end Variables

/-! ## What a value means -/

section Readings

variable {name value : String} {limit number : Nat} {error : SettingsError}

theorem read_number_eq_ok (positive : 0 < limit) :
    readNumber limit name value = .ok number ↔ Number.Writes limit (trim value.toList) number := by
  rw [← Number.read_natural_eq_ok positive, readNumber]
  cases Number.readNatural limit (trim value.toList) with
  | ok read => rw [Except.ok.injEq, Except.ok.injEq]
  | error fault => exact iff_of_false nofun nofun

theorem read_number_eq_error (positive : 0 < limit) :
    readNumber limit name value = .error error ↔
      ∃ fault, Number.Unread limit (trim value.toList) fault ∧
        error = .invalid name value (.number fault) := by
  simp only [← Number.read_natural_eq_error positive]
  rw [readNumber]
  cases Number.readNatural limit (trim value.toList) with
  | ok read => exact iff_of_false nofun nofun
  | error fault =>
      rw [Except.error.injEq, eq_comm]
      simp only [Except.error.injEq, exists_eq_left']

theorem to_lower_eq_iff {letter char : Char} (lower : letter.isLower = true) :
    char.toLower = letter ↔ char = letter ∨ char = letter.toUpper := by
  constructor
  · rintro rfl
    cases capital : char.isUpper with
    | true => exact .inr (to_upper_to_lower capital).symm
    | false => exact .inl (to_lower_of_small capital).symm
  · rintro (rfl | rfl)
    · exact to_lower_of_small (not_capital_of_small lower)
    · exact to_lower_to_upper lower

theorem map_to_lower_eq_iff {letters word : List Char}
    (lower : ∀ letter ∈ letters, letter.isLower = true) :
    word.map Char.toLower = letters ↔
      List.Forall₂ (fun letter char => char = letter ∨ char = letter.toUpper) letters word := by
  induction letters generalizing word with
  | nil => rw [List.map_eq_nil_iff, List.forall₂_nil_left_iff]
  | cons letter rest induction =>
      obtain ⟨first, behind⟩ := List.forall_mem_cons.mp lower
      rw [List.map_eq_cons_iff, List.forall₂_cons_left_iff]
      constructor
      · rintro ⟨char, others, whole, same, also⟩
        exact ⟨char, others, (to_lower_eq_iff first).mp same, (induction behind).mp also, whole⟩
      · rintro ⟨char, others, same, also, whole⟩
        exact ⟨char, others, whole, (to_lower_eq_iff first).mpr same, (induction behind).mpr also⟩

theorem named_iff {backend : Backend} {word : List Char} :
    backend.Named word ↔ word.map Char.toLower = backend.name.toList := by
  have lower : backend.name.toList.all Char.isLower = true := by
    cases backend <;> rfl
  exact (map_to_lower_eq_iff (List.all_eq_true.mp lower)).symm

theorem read_backend_eq_ok {backend : Backend} :
    readBackend name value = .ok backend ↔ backend.Named (trim value.toList) := by
  rw [named_iff, readBackend]
  split_ifs with smtp ses noop
  · rw [smtp, String.toList_inj, Except.ok.injEq]
    cases backend <;> decide
  · rw [ses, String.toList_inj, Except.ok.injEq]
    cases backend <;> decide
  · rw [noop, String.toList_inj, Except.ok.injEq]
    cases backend <;> decide
  · apply iff_of_false nofun
    cases backend with
    | smtp => exact smtp
    | ses => exact ses
    | noop => exact noop

theorem fault_of_read_backend (failed : readBackend name value = .error error) :
    error = .invalid name value .unknownBackend := by
  simp only [readBackend] at failed
  split_ifs at failed
  cases failed
  rfl

theorem read_backend_eq_error :
    readBackend name value = .error error ↔
      (∀ backend : Backend, ¬backend.Named (trim value.toList)) ∧
        error = .invalid name value .unknownBackend := by
  constructor
  · intro failed
    constructor
    · intro backend named
      rw [read_backend_eq_ok.mpr named] at failed
      cases failed
    · exact fault_of_read_backend failed
  · rintro ⟨unknown, rfl⟩
    cases read : readBackend name value with
    | ok backend => exact absurd (read_backend_eq_ok.mp read) (unknown backend)
    | error fault => rw [fault_of_read_backend read]

end Readings

/-! ## What a setting is -/

section Takings

variable {lookup : String → Option String} {name : String} {error : SettingsError}
variable {Setting : Type} {default setting : Setting} {means : String → Setting → Prop}
  {read : String → Except SettingsError Setting}

def readOr (default : Setting) (read : String → Except SettingsError Setting) :
    Option String → Except SettingsError Setting
  | none => .ok default
  | some value => read value

theorem read_or_eq_ok (reads : ∀ value setting, read value = .ok setting ↔ means value setting) :
    readOr default read (given? lookup name) = .ok setting ↔
      Taken lookup name default means setting := by
  cases given : given? lookup name with
  | none =>
      have unset := given_eq_none.mp given
      constructor
      · intro same
        cases same
        exact .unset unset
      · rintro (_ | ⟨holds, _⟩)
        · rfl
        · exact absurd holds unset.not_holds
  | some value =>
      have holds := given_eq_some.mp given
      rw [readOr, reads]
      constructor
      · exact .held holds
      · rintro (unset | ⟨also, meant⟩)
        · exact absurd holds unset.not_holds
        · rw [also.same holds]
          exact meant

theorem read_or_eq_error :
    readOr default read (given? lookup name) = .error error ↔
      ∃ value, Holds lookup name value ∧ read value = .error error := by
  simp only [← given_eq_some]
  cases given? lookup name with
  | none => exact iff_of_false nofun nofun
  | some value => simp only [readOr, Option.some_inj, exists_eq_left']

theorem taken_given {value : String} :
    Taken lookup name value (fun held setting => setting = held) ((given? lookup name).getD value) := by
  cases given : given? lookup name with
  | none => exact .unset (given_eq_none.mp given)
  | some held => exact .held (given_eq_some.mp given) rfl

theorem Taken.eq_given {value setting : String}
    (taken : Taken lookup name value (fun held setting => setting = held) setting) :
    setting = (given? lookup name).getD value := by
  cases taken with
  | unset unset => rw [given_eq_none.mpr unset, Option.getD_none]
  | held holds meant => rw [given_eq_some.mpr holds, Option.getD_some, meant]

theorem Taken.means_held {value : String} (taken : Taken lookup name default means setting)
    (holds : Holds lookup name value) : means value setting := by
  cases taken with
  | unset unset => exact absurd holds unset.not_holds
  | held also meant => exact holds.same also ▸ meant

theorem Taken.keeps {property : Setting → Prop} (taken : Taken lookup name default means setting)
    (unset : property default) (held : ∀ value setting, means value setting → property setting) :
    property setting := by
  cases taken with
  | unset => exact unset
  | held _ meant => exact held _ setting meant

theorem exists_taken (default : Setting)
    (meant : ∀ value, Holds lookup name value → ∃ setting, means value setting) :
    ∃ setting, Taken lookup name default means setting := by
  rcases unset_or_holds lookup name with unset | ⟨value, holds⟩
  · exact ⟨default, .unset unset⟩
  · obtain ⟨setting, meant⟩ := meant value holds
    exact ⟨setting, .held holds meant⟩

end Takings

end Settings

end SchoolNotice
