import SchoolNotice.Context
import SchoolNotice.Json.Compact
import SchoolNotice.Proofs.Text.Cut

/-!
# Texts in data

The texts of a value are its strings and its keys at every depth. What a path finds has no texts that the
whole has not. Printing sets the texts in quotes and writes an opening brace before a quote or a closing
brace only, so in the printed text a brace is doubled exactly where it is doubled in one of the texts.
-/

namespace SchoolNotice

open SchoolNotice.Text

/-! ## Printed numbers -/

def Numeric (char : Char) : Prop := char.isDigit = true ∨ char ∈ ['-', '+', '.', 'e']

instance : DecidablePred Numeric := fun char =>
  inferInstanceAs (Decidable (char.isDigit = true ∨ char ∈ ['-', '+', '.', 'e']))

theorem numeric_repr (value : Nat) : ∀ char ∈ (toString value).toList, Numeric char := by
  intro char member
  rw [show toString value = value.repr from rfl, Nat.toList_repr] at member
  exact .inl (Nat.isDigit_of_mem_toDigits (by decide) (by decide) member)

theorem numeric_replicate (count : Nat) : ∀ char ∈ List.replicate count '0', Numeric char := by
  intro char member
  rw [List.eq_of_mem_replicate member]
  decide

theorem Number.Binary64.text_numeric (number : Number.Binary64) :
    ∀ char ∈ number.text.toList, Numeric char := by
  have sign : ∀ char ∈ (if number.negative then "-" else "").toList, Numeric char := by
    split <;> decide
  have digits := numeric_repr number.shortest.digits
  have taken : ∀ count, ∀ char ∈ (toString number.shortest.digits).toList.take count, Numeric char :=
    fun count char member => digits char (List.mem_of_mem_take member)
  have dropped : ∀ count, ∀ char ∈ (toString number.shortest.digits).toList.drop count, Numeric char :=
    fun count char member => digits char (List.mem_of_mem_drop member)
  have point : Numeric '.' := by decide
  have zero : Numeric '0' := by decide
  rw [Number.Binary64.text]
  simp only
  split
  · rw [String.toList_append]
    exact List.forall_mem_append.mpr ⟨sign, by decide⟩
  · rw [String.toList_append, String.toList_ofList]
    refine List.forall_mem_append.mpr ⟨sign, ?_⟩
    split
    · split
      · simp only [List.forall_mem_append, List.forall_mem_cons]
        exact ⟨⟨digits, numeric_replicate _⟩, point, zero, List.forall_mem_nil _⟩
      · simp only [List.forall_mem_append, List.forall_mem_cons]
        exact ⟨taken _, point, dropped _⟩
    · split
      · simp only [List.forall_mem_append, List.forall_mem_cons]
        exact ⟨zero, point, numeric_replicate _, digits⟩
      · simp only [List.forall_mem_append, List.forall_mem_cons]
        refine ⟨⟨taken 1, ?_⟩, by decide, ?_, numeric_repr _⟩
        · split
          · exact List.forall_mem_nil _
          · exact List.forall_mem_cons.mpr ⟨point, dropped 1⟩
        · split <;> decide

theorem Number.text_numeric (number : Number) : ∀ char ∈ number.text.toList, Numeric char := by
  cases number with
  | integer value =>
      cases value with
      | ofNat magnitude => exact numeric_repr magnitude
      | negSucc magnitude =>
          have sign : ∀ char ∈ "-".toList, Numeric char := by decide
          rw [Number.text, show toString (Int.negSucc magnitude) = "-" ++ toString (magnitude + 1) from rfl,
            String.toList_append]
          exact List.forall_mem_append.mpr ⟨sign, numeric_repr _⟩
  | real value => exact value.text_numeric

theorem Number.text_unbraced (number : Number) : '{' ∉ number.text.toList := by
  intro member
  have numeric := number.text_numeric '{' member
  revert numeric
  decide

namespace Json

/-! ## A property of all texts -/

mutual

def AllTexts (property : String → Prop) : Json → Prop
  | .string text => property text
  | .array items => AllTextsItems property items
  | .object members => AllTextsMembers property members
  | _ => True

def AllTextsItems (property : String → Prop) : List Json → Prop
  | [] => True
  | item :: rest => AllTexts property item ∧ AllTextsItems property rest

def AllTextsMembers (property : String → Prop) : List (String × Json) → Prop
  | [] => True
  | (key, value) :: rest =>
      property key ∧ AllTexts property value ∧ AllTextsMembers property rest

end

section Paths

variable {property : String → Prop} {value found : Json} {members : Members}

theorem all_texts_get (all : AllTextsMembers property members) {key : String}
    (get : Members.get? key members = some value) : AllTexts property value := by
  induction members with
  | nil => cases get
  | cons member rest induction =>
      obtain ⟨-, here, others⟩ := all
      rw [Members.get?] at get
      split at get
      · rwa [← Option.some.inj get]
      · exact induction others get

theorem all_texts_hop (all : AllTextsMembers property members) {key : List Char}
    (hopped : hop key members = some value) : AllTexts property value := by
  rw [hop_eq, Option.or_eq_some_iff] at hopped
  rcases hopped with here | ⟨-, there⟩
  · exact all_texts_get all here
  · obtain ⟨other, -, get⟩ := Option.bind_eq_some_iff.mp there
    exact all_texts_get all get

theorem all_texts_descend {keys : List (List Char)} (all : AllTexts property value)
    (descended : descend keys value = some found) : AllTexts property found := by
  induction keys generalizing value with
  | nil => rwa [← Option.some.inj descended]
  | cons key rest induction =>
      cases value with
      | object members =>
          rw [descend] at descended
          obtain ⟨next, hopped, further⟩ := Option.bind_eq_some_iff.mp descended
          exact induction (all_texts_hop all hopped) further
      | _ => cases descended

theorem all_texts_resolve {context : Context} (all : AllTexts property context.toJson)
    {path : List Char} (resolved : context.resolve? path = some found) : AllTexts property found :=
  all_texts_descend all resolved

end Paths

/-! ## Braces in printed data -/

section Braces

/-- No opening brace stands twice in a row in the text. -/
def SingleBraced (text : String) : Prop := Undoubled '{' text.toList

theorem escaped_char_cases (char : Char) :
    escapedChar char = [char] ∨
      char ≠ '{' ∧ escapedChar char ≠ [] ∧ '{' ∉ escapedChar char := by
  by_cases brace : char = '{'
  · rw [brace]
    exact .inl rfl
  · refine .inr ⟨brace, ?_⟩
    have digits : ∀ value < 16, Hex.digit value ≠ '{' := by decide
    unfold escapedChar
    split_ifs with _ _ _ _ _ _ _ control
    all_goals simp [Ne.symm brace]
    exact ⟨(digits _ (by omega)).symm, (digits _ (by omega)).symm⟩

theorem head_escaped (text : List Char) :
    (text.flatMap escapedChar).head? = some '{' ↔ text.head? = some '{' := by
  cases text with
  | nil => rfl
  | cons char rest =>
      rw [List.flatMap_cons]
      rcases escaped_char_cases char with same | ⟨apart, filled, absent⟩
      · rw [same]
        rfl
      · obtain ⟨first, more, whole⟩ := List.exists_cons_of_ne_nil filled
        rw [whole] at absent
        rw [whole, List.cons_append, List.head?_cons, List.head?_cons, Option.some.injEq,
          Option.some.injEq]
        apply iff_of_false
        · rintro rfl
          exact absent List.mem_cons_self
        · exact apart

/-- Escaping neither doubles a brace nor parts two. -/
theorem undoubled_escaped (text : List Char) :
    Undoubled '{' (text.flatMap escapedChar) ↔ Undoubled '{' text := by
  induction text with
  | nil => rfl
  | cons char rest induction =>
      rw [List.flatMap_cons, undoubled_cons]
      rcases escaped_char_cases char with same | ⟨apart, -, absent⟩
      · rw [same, List.singleton_append, undoubled_cons, head_escaped, induction]
      · rw [undoubled_append_of_not_mem absent, induction]
        simp [apart]

theorem undoubled_quoted_text (text : String) : Undoubled '{' (quoted text) ↔ SingleBraced text := by
  rw [quoted, undoubled_cons, undoubled_around (by decide), undoubled_escaped]
  simp [SingleBraced, Undoubled]

mutual

/-- The induction is on the value. Items and members end at a comma or a bracket, a key ends at a colon,
and behind the opening brace of an object stands the quote of its first key or the closing brace. -/
theorem undoubled_compact (value : Json) :
    Undoubled '{' value.compactChars ↔ AllTexts SingleBraced value := by
  cases value with
  | null => exact iff_of_true (by decide) trivial
  | bool flag => cases flag <;> exact iff_of_true (by decide) trivial
  | number digits => exact iff_of_true (undoubled_of_not_mem digits.text_unbraced) trivial
  | string text => exact undoubled_quoted_text text
  | array items =>
      rw [compactChars, undoubled_cons, undoubled_around (by decide), undoubled_compact_items items]
      simp [AllTexts, Undoubled]
  | object members =>
      obtain ⟨unbraced, inside⟩ := undoubled_compact_members members
      have behind : (compactMembers members ++ ['}']).head? ≠ some '{' := by
        rw [List.head?_append]
        cases first : (compactMembers members).head? with
        | none => decide
        | some char => rwa [first] at unbraced
      rw [compactChars, undoubled_cons, undoubled_around (by decide), inside]
      constructor
      · intro parts
        exact parts.2.1
      · intro all
        exact ⟨fun both => behind both.2, all, by decide⟩

theorem undoubled_compact_items (items : List Json) :
    Undoubled '{' (compactItems items) ↔ AllTextsItems SingleBraced items := by
  match items with
  | [] => exact iff_of_true (by decide) trivial
  | [item] =>
      rw [compactItems, undoubled_compact item]
      exact ⟨fun here => ⟨here, trivial⟩, And.left⟩
  | item :: next :: rest =>
      rw [compactItems, undoubled_around (by decide), undoubled_compact item,
        undoubled_compact_items (next :: rest)]
      · rfl
      · simp

theorem undoubled_compact_members (members : Members) :
    (compactMembers members).head? ≠ some '{' ∧
      (Undoubled '{' (compactMembers members) ↔ AllTextsMembers SingleBraced members) := by
  match members with
  | [] => exact ⟨by decide, iff_of_true (by decide) trivial⟩
  | [(key, value)] =>
      rw [compactMembers, undoubled_around (by decide), undoubled_quoted_text key,
        undoubled_compact value]
      exact ⟨by simp [quoted], by simp [AllTextsMembers]⟩
  | (key, value) :: next :: rest =>
      obtain ⟨-, behind⟩ := undoubled_compact_members (next :: rest)
      rw [compactMembers, undoubled_around (by decide), undoubled_quoted_text key,
        undoubled_around (by decide), undoubled_compact value, behind]
      · exact ⟨by simp [quoted], Iff.rfl⟩
      · simp

end

end Braces

end Json

end SchoolNotice
