import Mathlib.Data.List.Basic
import SchoolNotice.Layout
import SchoolNotice.Proofs.Text.Enclosed

/-!
What a tenant's texts can do to a page. A page is a frame around its body. None of the characters that open or
close a tag or an attribute comes from a text of the tenant, so the frame has the same ones for all tenants that
fill the same parts of it; and the tenant's name can be read back from the title.
-/

namespace SchoolNotice

namespace Text

namespace Escaped

/-- The characters that open or close a tag or the value of an attribute. -/
def isMark (char : Char) : Bool :=
  char == '<' || char == '>' || char == '\x22' || char == '\x27' || char == '/'

def marks (text : List Char) : List Char := text.filter isMark

@[simp] theorem marks_append (text other : List Char) :
    marks (text ++ other) = marks text ++ marks other :=
  List.filter_append text other

theorem marks_encode_char (char : Char) : marks (encodeChar char) = [] := by
  unfold encodeChar
  split_ifs with amp less greater double single slash
  · rfl
  · rfl
  · rfl
  · rfl
  · rfl
  · rfl
  · simp [marks, isMark, less, greater, double, single, slash]

/-- A text that was made safe has no marks. -/
@[simp] theorem marks_encode (text : List Char) : marks (encode text) = [] := by
  induction text with
  | nil => rfl
  | cons char rest induction =>
      rw [encode, List.flatMap_cons, marks_append, marks_encode_char, List.nil_append]
      exact induction

theorem opener_not_mem_encode (text : List Char) : '<' ∉ encode text := by
  intro inside
  have kept : '<' ∈ marks (encode text) := List.mem_filter.mpr ⟨inside, rfl⟩
  rw [marks_encode] at kept
  cases kept

end Escaped

end Text

open Text

namespace Layout

@[simp] theorem fill_append (filling : Filling) (sections others : List Section) :
    fill filling (sections ++ others) = fill filling sections ++ fill filling others :=
  List.flatMap_append

@[simp] theorem fill_cons (filling : Filling) (part : Section) (sections : List Section) :
    fill filling (part :: sections) = part.write filling ++ fill filling sections :=
  List.flatMap_cons

def Leaf.bodyless : Leaf → Bool
  | .escaped .body => false
  | .verbatim .body => false
  | _ => true

/-- A leaf that shows no text of the tenant as it is. -/
def Leaf.guarded : Leaf → Bool
  | .verbatim .body => true
  | .verbatim (.look _) => true
  | .verbatim _ => false
  | _ => true

def Section.bodyless (part : Section) : Bool := part.leaves.all Leaf.bodyless

def Section.guarded (part : Section) : Bool := part.leaves.all Leaf.guarded

section Body

variable {filling other : Filling}

theorem leaf_write_bodyless (same : { filling with body := other.body } = other) {leaf : Leaf}
    (bodyless : leaf.bodyless) : leaf.write filling = leaf.write other := by
  rw [← same]
  cases leaf with
  | markup text => rfl
  | escaped slot =>
      cases slot with
      | body => cases bodyless
      | _ => rfl
  | verbatim slot =>
      cases slot with
      | body => cases bodyless
      | _ => rfl

theorem section_write_bodyless (same : { filling with body := other.body } = other) {part : Section}
    (bodyless : part.bodyless) : part.write filling = part.write other := by
  have leaves := List.flatMap_congr fun leaf inside =>
    leaf_write_bodyless same (List.all_eq_true.mp bodyless leaf inside)
  have shown : part.condition.holds filling = part.condition.holds other := by
    rw [← same]
    cases part.condition <;> rfl
  rw [Section.write, Section.write, leaves, shown]

/-- Sections that do not show the body are the same for every body. -/
theorem fill_bodyless (same : { filling with body := other.body } = other) {sections : List Section}
    (bodyless : sections.all Section.bodyless) : fill filling sections = fill other sections :=
  List.flatMap_congr fun part inside =>
    section_write_bodyless same (List.all_eq_true.mp bodyless part inside)

end Body

structure Alike (filling other : Filling) : Prop where
  look : filling.look = other.look
  body : filling.body = other.body
  logo : filling.logoUrl.isSome = other.logoUrl.isSome
  contacts : filling.contacts.isEmpty = other.contacts.isEmpty

section Marks

variable {filling other : Filling}

theorem marks_leaf (alike : Alike filling other) {leaf : Leaf} (guarded : leaf.guarded) :
    Escaped.marks (leaf.write filling) = Escaped.marks (leaf.write other) := by
  cases leaf with
  | markup text => rfl
  | escaped slot => rw [Leaf.write, Leaf.write, Escaped.marks_encode, Escaped.marks_encode]
  | verbatim slot =>
      cases slot with
      | body => rw [Leaf.write, Leaf.write, Slot.text, Slot.text, alike.body]
      | look field => rw [Leaf.write, Leaf.write, Slot.text, Slot.text, alike.look]
      | _ => cases guarded

theorem holds_alike (alike : Alike filling other) (condition : Condition) :
    condition.holds filling = condition.holds other := by
  cases condition with
  | always => rfl
  | logo => exact alike.logo
  | contacts => rw [Condition.holds, Condition.holds, alike.contacts]

theorem marks_section (alike : Alike filling other) {part : Section} (guarded : part.guarded) :
    Escaped.marks (part.write filling) = Escaped.marks (part.write other) := by
  rw [Section.write, Section.write, holds_alike alike]
  split
  · rw [Escaped.marks, Escaped.marks, List.filter_flatMap, List.filter_flatMap]
    apply List.flatMap_congr
    intro leaf inside
    exact marks_leaf alike (List.all_eq_true.mp guarded leaf inside)
  · rfl

/-- Where no text of the tenant is shown as it is, the marks of a page come from elsewhere. -/
theorem marks_fill (alike : Alike filling other) {sections : List Section}
    (guarded : sections.all Section.guarded) :
    Escaped.marks (fill filling sections) = Escaped.marks (fill other sections) := by
  rw [fill, fill, Escaped.marks, Escaped.marks, List.filter_flatMap, List.filter_flatMap]
  apply List.flatMap_congr
  intro part inside
  exact marks_section alike (List.all_eq_true.mp guarded part inside)

end Marks

/-- The text of the body stands between what comes of the layout before it and behind it. -/
theorem fill_layout (filling : Filling) :
    fill filling layout = fill filling head ++ filling.body ++ fill filling foot := by
  rw [layout, fill_append, fill_cons, List.append_assoc]
  congr 2
  exact List.append_nil filling.body

def title? (page : List Char) : Option (List Char) :=
  between? "<title>".toList "</title>".toList page

theorem title_fill (filling : Filling) :
    title? (fill filling layout) = some (Escaped.encode filling.tenantName.toList) := by
  obtain ⟨rest, page⟩ : ∃ rest, fill filling layout =
      preamble.toList ++ (Escaped.encode filling.tenantName.toList ++ ("</title>".toList ++ rest)) := by
    apply Exists.intro
    simp only [layout, head, fill_append, fill_cons, Section.write, Condition.holds, if_true,
      List.flatMap_cons, Leaf.write, Slot.text, List.append_assoc]
    rfl
  have opened : (cutAt? "<title>".toList preamble.toList).map Prod.snd = some [] := by
    decide +kernel
  obtain ⟨⟨before, after⟩, found, ended⟩ := Option.map_eq_some_iff.mp opened
  cases ended
  have unopened := Escaped.opener_not_mem_encode filling.tenantName.toList
  have closed := cut_at_fresh unopened "/title>".toList rest
  rw [title?, between?, page, cut_at_append found, List.nil_append, Option.bind_some]
  exact congrArg (Option.map Prod.fst) closed

end Layout

def HasText (text : Option String) : Prop := ∃ words, text = some words ∧ words ≠ ""

def Branding.HasContact (branding : Branding) : Prop :=
  HasText branding.address ∨ HasText branding.phone ∨ HasText branding.email

namespace Theme

/-- Two tenants fill the same parts of a page, the logo and the line of contact details. -/
structure SameParts (branding other : Branding) : Prop where
  logo : HasText branding.logoUrl ↔ HasText other.logoUrl
  contact : branding.HasContact ↔ other.HasContact

theorem is_some_filled {text : Option String} :
    (text.filter (· != "")).isSome = true ↔ HasText text := by
  cases text with
  | none => simp [HasText]
  | some words => simp [HasText]

theorem filled_eq_nil {texts : List (Option String)} :
    (texts.filterMap id).filter (· != "") = [] ↔ ∀ text ∈ texts, ¬HasText text := by
  rw [List.filter_eq_nil_iff]
  constructor
  · intro blank text inside filled
    obtain ⟨words, rfl, written⟩ := filled
    apply blank words (List.mem_filterMap.mpr ⟨some words, inside, rfl⟩)
    exact bne_iff_ne.mpr written
  · intro blank words listed written
    obtain ⟨text, inside, same⟩ := List.mem_filterMap.mp listed
    exact blank text inside ⟨words, same, bne_iff_ne.mp written⟩

theorem contacts_eq_nil (branding : Branding) : contacts branding = [] ↔ ¬branding.HasContact := by
  rw [contacts, filled_eq_nil]
  simp [Branding.HasContact]

theorem alike_of_same_parts (body : List Char) (theme : Theme) {branding other : Branding}
    (same : SameParts branding other) :
    Layout.Alike (filling body theme branding) (filling body theme other) := by
  constructor
  · rfl
  · rfl
  · rw [Bool.eq_iff_iff]
    exact is_some_filled.trans (same.logo.trans is_some_filled.symm)
  · rw [Bool.eq_iff_iff, List.isEmpty_iff, List.isEmpty_iff]
    have contact := not_congr same.contact
    rwa [← contacts_eq_nil, ← contacts_eq_nil] at contact

/-- A page is a frame around its body, in which no text of the tenant opens or closes a tag or an attribute, and
which gives the tenant's name back. -/
theorem branding_stays_text (theme : Theme) :
    (∀ branding, ∃ before after, ∀ body, wrap body theme branding = before ++ body ++ after) ∧
      (∀ body branding other, SameParts branding other →
        Escaped.marks (wrap body theme branding) = Escaped.marks (wrap body theme other)) ∧
      ∀ body branding, (Layout.title? (wrap body theme branding)).map Escaped.decode =
        some branding.tenantName.toList := by
  refine ⟨?framed, ?marked, ?titled⟩
  case framed =>
    intro branding
    let plain := filling [] theme branding
    have head (body : List Char) : Layout.fill (filling body theme branding) Layout.head =
        Layout.fill plain Layout.head := Layout.fill_bodyless rfl rfl
    have foot (body : List Char) : Layout.fill (filling body theme branding) Layout.foot =
        Layout.fill plain Layout.foot := Layout.fill_bodyless rfl rfl
    refine ⟨Layout.fill plain Layout.head, Layout.fill plain Layout.foot, ?_⟩
    intro body
    rw [wrap, Layout.fill_layout, head, foot]
    rfl
  case marked =>
    intro body branding other same
    exact Layout.marks_fill (alike_of_same_parts body theme same) rfl
  case titled =>
    intro body branding
    rw [wrap, Layout.title_fill, Option.map_some, Escaped.decode_encode]
    rfl

theorem branding_stays_text_hostile :
    let plain : Branding := ⟨"North", some "n.png", some "1-2-3", some "", none⟩
    let hostile : Branding :=
      ⟨"</title><script>", some "x\" onerror=\"a()", none, none, some "'/><b>&amp;"⟩
    let page (branding : Branding) := wrap "<b>raw</b>".toList .classic branding
    SameParts plain hostile ∧ Escaped.marks (page plain) = Escaped.marks (page hostile) ∧
      (Layout.title? (page hostile)).map Escaped.decode = some "</title><script>".toList := by
  intro plain hostile page
  have same : SameParts plain hostile := by
    constructor
    · simp [plain, hostile, HasText]
    · simp [plain, hostile, Branding.HasContact, HasText]
  obtain ⟨_, marked, titled⟩ := branding_stays_text .classic
  exact ⟨same, marked "<b>raw</b>".toList plain hostile same, titled "<b>raw</b>".toList hostile⟩

end Theme

end SchoolNotice
