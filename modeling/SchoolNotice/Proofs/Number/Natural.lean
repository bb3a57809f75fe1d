import SchoolNotice.Number.Natural

/-!
The texts that write a natural number below a limit: one digit or more, with or without a plus sign in front,
whose value is below the limit. Any other text goes wrong at one of its characters, and the first of these decides
the fault.
-/

namespace SchoolNotice.Number

/-- The text is digits with a value below the limit, perhaps behind a plus sign. -/
def Writes (limit : Nat) (text : List Char) (number : Nat) : Prop :=
  ∃ digits, (text = digits ∨ text = '+' :: digits) ∧ digits ≠ [] ∧
    (∀ char ∈ digits, char.isDigit = true) ∧ Nat.ofDigitChars 10 digits 0 = number ∧ number < limit

/-- What is wrong with the first character that does not add to a value below the limit. -/
inductive Stops (limit value : Nat) (text : List Char) : NaturalFault → Prop
  | stray {digits rest : List Char} {char : Char} (whole : text = digits ++ char :: rest)
      (good : ∀ digit ∈ digits, digit.isDigit = true) (fits : Nat.ofDigitChars 10 digits value < limit)
      (bad : char.isDigit = false) : Stops limit value text .invalidDigit
  | beyond {digits rest : List Char} {char : Char} (whole : text = digits ++ char :: rest)
      (good : ∀ digit ∈ digits, digit.isDigit = true) (fits : Nat.ofDigitChars 10 digits value < limit)
      (digit : char.isDigit = true) (reaches : limit ≤ Nat.ofDigitChars 10 (digits ++ [char]) value) :
      Stops limit value text .tooLarge

inductive Unread (limit : Nat) : List Char → NaturalFault → Prop
  | nothing : Unread limit [] .empty
  | signAlone : Unread limit ['+'] .invalidDigit
  | signed {digits : List Char} {fault : NaturalFault} (stops : Stops limit 0 digits fault) :
      Unread limit ('+' :: digits) fault
  | unsigned {text : List Char} {fault : NaturalFault} (unsigned : text.head? ≠ some '+')
      (stops : Stops limit 0 text fault) : Unread limit text fault

section Digits

variable {limit value number : Nat} {text : List Char} {fault : NaturalFault}

theorem le_of_digits (digits : List Char) (value : Nat) : value ≤ Nat.ofDigitChars 10 digits value := by
  induction digits generalizing value with
  | nil => exact Nat.le_refl value
  | cons char rest induction =>
      rw [Nat.ofDigitChars_cons]
      have further := induction (10 * value + (char.toNat - '0'.toNat))
      omega

/-- The first digit first, and then the others from its value. -/
theorem of_digits_cons (char : Char) (digits : List Char) (value : Nat) :
    Nat.ofDigitChars 10 (char :: digits) value =
      Nat.ofDigitChars 10 digits (Nat.ofDigitChars 10 [char] value) :=
  Nat.ofDigitChars_append (l := [char]) value

theorem read_digits_cons {char : Char} (digit : char.isDigit = true) (rest : List Char) :
    readDigits limit value (char :: rest) =
      if Nat.ofDigitChars 10 [char] value < limit then
        readDigits limit (Nat.ofDigitChars 10 [char] value) rest
      else .error .tooLarge := by
  have next : value * 10 + (char.toNat - 48) = Nat.ofDigitChars 10 [char] value := by
    rw [Nat.ofDigitChars_cons, Nat.mul_comm]
    rfl
  rw [readDigits, if_pos digit, next]

/-- Digits with a value below the limit are read and only their value is kept. -/
theorem read_digits_append {digits : List Char} (good : ∀ digit ∈ digits, digit.isDigit = true)
    (fits : Nat.ofDigitChars 10 digits value < limit) (rest : List Char) :
    readDigits limit value (digits ++ rest) =
      readDigits limit (Nat.ofDigitChars 10 digits value) rest := by
  induction digits generalizing value with
  | nil => rfl
  | cons char digits induction =>
      obtain ⟨digit, behind⟩ := List.forall_mem_cons.mp good
      rw [of_digits_cons] at fits ⊢
      have below := Nat.lt_of_le_of_lt (le_of_digits digits _) fits
      rw [List.cons_append, read_digits_cons digit, if_pos below, induction behind fits]

theorem read_digits_of_good (good : ∀ digit ∈ text, digit.isDigit = true)
    (fits : Nat.ofDigitChars 10 text value < limit) :
    readDigits limit value text = .ok (Nat.ofDigitChars 10 text value) := by
  have whole := read_digits_append good fits []
  rw [List.append_nil] at whole
  exact whole

theorem read_digits_of_stops (stops : Stops limit value text fault) :
    readDigits limit value text = .error fault := by
  cases stops with
  | stray whole good fits bad =>
      rw [whole, read_digits_append good fits, readDigits, if_neg (Bool.eq_false_iff.mp bad)]
  | beyond whole good fits digit reaches =>
      rw [Nat.ofDigitChars_append] at reaches
      rw [whole, read_digits_append good fits, read_digits_cons digit, if_neg (Nat.not_lt.mpr reaches)]

/-- Behind a digit a text goes wrong where it went wrong before. -/
theorem Stops.behind {char : Char} (digit : char.isDigit = true)
    (stops : Stops limit (Nat.ofDigitChars 10 [char] value) text fault) :
    Stops limit value (char :: text) fault := by
  cases stops with
  | @stray digits rest next whole good fits bad =>
      rw [← of_digits_cons] at fits
      exact .stray (congrArg (char :: ·) whole) (List.forall_mem_cons.mpr ⟨digit, good⟩) fits bad
  | @beyond digits rest next whole good fits also reaches =>
      rw [← of_digits_cons] at fits reaches
      exact .beyond (congrArg (char :: ·) whole) (List.forall_mem_cons.mpr ⟨digit, good⟩) fits also reaches

theorem good_or_stops (below : value < limit) :
    ((∀ digit ∈ text, digit.isDigit = true) ∧ Nat.ofDigitChars 10 text value < limit) ∨
      ∃ fault, Stops limit value text fault := by
  induction text generalizing value with
  | nil => exact .inl ⟨nofun, below⟩
  | cons char rest induction =>
      by_cases digit : char.isDigit = true
      · by_cases fits : Nat.ofDigitChars 10 [char] value < limit
        · rcases induction fits with ⟨good, whole⟩ | ⟨fault, stops⟩
          · exact .inl ⟨List.forall_mem_cons.mpr ⟨digit, good⟩, whole⟩
          · exact .inr ⟨fault, stops.behind digit⟩
        · have reaches := Nat.not_lt.mp fits
          exact .inr ⟨.tooLarge, .beyond (List.nil_append _).symm nofun below digit reaches⟩
      · have bad := Bool.eq_false_iff.mpr digit
        exact .inr ⟨.invalidDigit, .stray (List.nil_append _).symm nofun below bad⟩

theorem read_digits_eq_ok (below : value < limit) :
    readDigits limit value text = .ok number ↔
      (∀ digit ∈ text, digit.isDigit = true) ∧ Nat.ofDigitChars 10 text value = number ∧
        number < limit := by
  constructor
  · intro read
    rcases good_or_stops below with ⟨good, fits⟩ | ⟨fault, stops⟩
    · rw [read_digits_of_good good fits] at read
      cases read
      exact ⟨good, rfl, fits⟩
    · rw [read_digits_of_stops stops] at read
      cases read
  · rintro ⟨good, rfl, fits⟩
    exact read_digits_of_good good fits

theorem read_digits_eq_error (below : value < limit) :
    readDigits limit value text = .error fault ↔ Stops limit value text fault := by
  constructor
  · intro read
    rcases good_or_stops below with ⟨good, fits⟩ | ⟨other, stops⟩
    · rw [read_digits_of_good good fits] at read
      cases read
    · rw [read_digits_of_stops stops] at read
      cases read
      exact stops
  · exact read_digits_of_stops

end Digits

section Texts

variable {limit number : Nat} {text : List Char} {fault : NaturalFault}

theorem Stops.filled {value : Nat} (stops : Stops limit value text fault) : text ≠ [] := by
  rintro rfl
  cases stops with
  | stray whole | beyond whole => exact List.append_ne_nil_of_right_ne_nil _ (List.cons_ne_nil _ _) whole.symm

/-- The texts by what stands in front: nothing at all, a sign alone, a sign before something, or no sign. -/
theorem sign_cases (text : List Char) :
    text = [] ∨ text = ['+'] ∨ (∃ digits, digits ≠ [] ∧ text = '+' :: digits) ∨
      text ≠ [] ∧ text.head? ≠ some '+' := by
  match text with
  | [] => exact .inl rfl
  | first :: rest =>
      by_cases sign : first = '+'
      · subst sign
        cases rest with
        | nil => exact .inr (.inl rfl)
        | cons char rest => exact .inr (.inr (.inl ⟨char :: rest, List.cons_ne_nil char rest, rfl⟩))
      · have unsigned : (first :: rest).head? ≠ some '+' := fun same => sign (Option.some.inj same)
        exact .inr (.inr (.inr ⟨List.cons_ne_nil first rest, unsigned⟩))

theorem read_natural_signed (filled : text ≠ []) :
    readNatural limit ('+' :: text) = readDigits limit 0 text := by
  cases text with
  | nil => exact absurd rfl filled
  | cons char rest => rfl

theorem read_natural_unsigned (filled : text ≠ []) (unsigned : text.head? ≠ some '+') :
    readNatural limit text = readDigits limit 0 text := by
  unfold readNatural
  split
  · exact absurd rfl filled
  · exact absurd rfl unsigned
  · exact absurd rfl unsigned
  · rfl

theorem writes_signed (filled : text ≠ []) :
    Writes limit ('+' :: text) number ↔ (∀ digit ∈ text, digit.isDigit = true) ∧
      Nat.ofDigitChars 10 text 0 = number ∧ number < limit := by
  constructor
  · rintro ⟨digits, rfl | whole, _, good, value⟩
    · exact absurd (good '+' List.mem_cons_self) (by decide)
    · cases whole
      exact ⟨good, value⟩
  · rintro ⟨good, value⟩
    exact ⟨text, .inr rfl, filled, good, value⟩

theorem writes_unsigned (filled : text ≠ []) (unsigned : text.head? ≠ some '+') :
    Writes limit text number ↔ (∀ digit ∈ text, digit.isDigit = true) ∧
      Nat.ofDigitChars 10 text 0 = number ∧ number < limit := by
  constructor
  · rintro ⟨digits, rfl | rfl, _, good, value⟩
    · exact ⟨good, value⟩
    · exact absurd rfl unsigned
  · rintro ⟨good, value⟩
    exact ⟨text, .inl rfl, filled, good, value⟩

theorem not_writes_nothing : ¬Writes limit [] number := by
  rintro ⟨digits, rfl | whole, filled, _⟩
  · exact filled rfl
  · cases whole

theorem not_writes_sign_alone : ¬Writes limit ['+'] number := by
  rintro ⟨digits, rfl | whole, filled, good, _⟩
  · exact absurd (good '+' List.mem_cons_self) (by decide)
  · cases whole
    exact filled rfl

/-- A number below the limit is read from exactly the texts that write it. -/
theorem read_natural_eq_ok (positive : 0 < limit) :
    readNatural limit text = .ok number ↔ Writes limit text number := by
  rcases sign_cases text with rfl | rfl | ⟨digits, filled, rfl⟩ | ⟨filled, unsigned⟩
  · exact iff_of_false nofun not_writes_nothing
  · exact iff_of_false nofun not_writes_sign_alone
  · rw [read_natural_signed filled, read_digits_eq_ok positive, writes_signed filled]
  · rw [read_natural_unsigned filled unsigned, read_digits_eq_ok positive,
      writes_unsigned filled unsigned]

theorem read_natural_eq_error (positive : 0 < limit) :
    readNatural limit text = .error fault ↔ Unread limit text fault := by
  rcases sign_cases text with rfl | rfl | ⟨digits, filled, rfl⟩ | ⟨filled, unsigned⟩
  · constructor
    · intro read
      cases read
      exact .nothing
    · intro unread
      cases unread with
      | nothing => rfl
      | unsigned _ stops => exact absurd rfl stops.filled
  · constructor
    · intro read
      cases read
      exact .signAlone
    · intro unread
      cases unread with
      | signAlone => rfl
      | signed stops => exact absurd rfl stops.filled
      | unsigned unsigned => exact absurd rfl unsigned
  · rw [read_natural_signed filled, read_digits_eq_error positive]
    constructor
    · exact .signed
    · intro unread
      cases unread with
      | signAlone => exact absurd rfl filled
      | signed stops => exact stops
      | unsigned unsigned => exact absurd rfl unsigned
  · rw [read_natural_unsigned filled unsigned, read_digits_eq_error positive]
    constructor
    · exact .unsigned unsigned
    · intro unread
      cases unread with
      | nothing => exact absurd rfl filled
      | signAlone | signed => exact absurd rfl unsigned
      | unsigned _ stops => exact stops

end Texts

end SchoolNotice.Number
