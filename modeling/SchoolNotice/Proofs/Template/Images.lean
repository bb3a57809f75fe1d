import Mathlib.Data.List.Forall2
import SchoolNotice.Proofs.Text.Cut
import SchoolNotice.Proofs.Text.Enclosed
import SchoolNotice.Proofs.Text.LetterCase
import SchoolNotice.Template.Image

/-!
# Addresses of images

Which values are shown as images, told by the parts of an address. No root begins another, so a value has
at most one; every split of what stands behind the root counts. No character that could end the
attribute is in such a value, so in the tag it is the whole attribute.
-/

namespace SchoolNotice.Template

open SchoolNotice.Text

section Folding

variable {char letter : Char} {text word front rest : List Char}

/-- The first character is the second one in another case. Of the characters outside ASCII only two have
a letter of ASCII as their simple folding. -/
inductive Folds : Char → Char → Prop
  | same (char : Char) : Folds char char
  | capital {char : Char} (capital : char.isUpper = true) : Folds char char.toLower
  | longS : Folds '\u017f' 's'
  | kelvin : Folds '\u212a' 'k'

theorem folds_fold_case (char : Char) : Folds char (foldCase char) := by
  unfold foldCase
  split
  · next long =>
    rw [long]
    exact .longS
  · split
    · next kelvin =>
      rw [kelvin]
      exact .kelvin
    · by_cases capital : char.isUpper = true
      · exact .capital capital
      · rw [to_lower_of_small (Bool.eq_false_iff.mpr capital)]
        exact .same char

theorem fold_case_eq_iff (settled : foldCase letter = letter) :
    foldCase char = letter ↔ Folds char letter := by
  constructor
  · intro folded
    rw [← folded]
    exact folds_fold_case char
  · intro folds
    cases folds with
    | same => exact settled
    | capital capital =>
        have notLong : char ≠ '\u017f' := of_capital (· ≠ '\u017f') (by decide) capital
        have notKelvin : char ≠ '\u212a' := of_capital (· ≠ '\u212a') (by decide) capital
        rw [foldCase, if_neg notLong, if_neg notKelvin]
    | longS => rfl
    | kelvin => rfl

def SpelledAs (text word : List Char) : Prop := List.Forall₂ Folds text word

theorem spelled_as_iff (settled : ∀ letter ∈ word, foldCase letter = letter) :
    SpelledAs text word ↔ text.map foldCase = word := by
  constructor
  · intro spelled
    induction spelled with
    | nil => rfl
    | @cons char letter text word folds others induction =>
        obtain ⟨first, behind⟩ := List.forall_mem_cons.mp settled
        rw [List.map_cons, (fold_case_eq_iff first).mpr folds, induction behind]
  · intro folded
    rw [← folded, SpelledAs, List.forall₂_map_right_iff, List.forall₂_same]
    intro char member
    exact folds_fold_case char

theorem drop_folded_eq_some :
    dropFolded word text = some rest ↔
      ∃ front, text = front ++ rest ∧ front.map foldCase = word := by
  fun_induction dropFolded word text with
  | case1 text =>
      constructor
      · intro same
        exact ⟨[], Option.some.inj same, rfl⟩
      · intro parts
        obtain ⟨front, rfl, folded⟩ := parts
        rw [List.map_eq_nil_iff.mp folded, List.nil_append]
  | case2 letter word =>
      constructor
      · intro dropped
        cases dropped
      · intro parts
        obtain ⟨front, whole, folded⟩ := parts
        rw [(List.append_eq_nil_iff.mp whole.symm).1] at folded
        cases folded
  | case3 word char text induction =>
      rw [induction]
      constructor
      · intro parts
        obtain ⟨front, rfl, rfl⟩ := parts
        exact ⟨char :: front, rfl, rfl⟩
      · intro parts
        obtain ⟨front, whole, folded⟩ := parts
        obtain ⟨first, others, rfl, -, behind⟩ := List.map_eq_cons_iff.mp folded
        obtain ⟨-, inner⟩ := List.cons.inj whole
        exact ⟨others, inner, behind⟩
  | case4 letter word char text apart =>
      constructor
      · intro dropped
        cases dropped
      · intro parts
        obtain ⟨front, whole, folded⟩ := parts
        obtain ⟨first, others, rfl, here, -⟩ := List.map_eq_cons_iff.mp folded
        obtain ⟨rfl, -⟩ := List.cons.inj whole
        exact absurd here apart

end Folding

section Parts

variable {value start stem ending query rest : List Char}

/-- A character that can neither end an attribute nor begin or end a tag, and no blank. -/
def Clean (char : Char) : Prop :=
  isBlank char = false ∧ char ≠ '\x22' ∧ char ≠ '\x27' ∧ char ≠ '<' ∧ char ≠ '>'

structure Addresses (value start stem ending query : List Char) : Prop where
  whole : value = start ++ stem ++ '.' :: ending ++ query
  root : ∃ root ∈ ["http://".toList, "https://".toList, "/uploads/".toList], SpelledAs start root
  filled : stem ≠ []
  extension : ∃ extension ∈ ["png".toList, "jpg".toList, "jpeg".toList, "gif".toList, "webp".toList,
    "svg".toList, "bmp".toList], SpelledAs ending extension
  asked : query = [] ∨ query.head? = some '?'
  clean : ∀ char ∈ stem ++ '.' :: ending ++ query, Clean char

theorem is_address_char_iff {char : Char} : isAddressChar char = true ↔ Clean char := by
  simp only [isAddressChar, Clean, Bool.and_eq_true, Bool.not_eq_true', bne_iff_ne, ne_eq, and_assoc]

theorem spelled_in_iff {words : List (List Char)}
    (settled : ∀ word ∈ words, ∀ letter ∈ word, foldCase letter = letter) (text : List Char) :
    text.map foldCase ∈ words ↔ ∃ word ∈ words, SpelledAs text word := by
  constructor
  · intro member
    exact ⟨_, member, (spelled_as_iff (settled _ member)).mpr rfl⟩
  · intro found
    obtain ⟨word, member, spelled⟩ := found
    rwa [(spelled_as_iff (settled word member)).mp spelled]

/-- Where no root begins another, the text before the rest is the only one that spells a root. -/
theorem root_unique {other behind : List Char} (root : start.map foldCase ∈ imageRoots)
    (another : other.map foldCase ∈ imageRoots) (same : start ++ rest = other ++ behind) :
    rest = behind := by
  have apart : ∀ first ∈ imageRoots, ∀ second ∈ imageRoots, first <+: second → first = second := by
    decide
  have folded : start.map foldCase ++ rest.map foldCase =
      other.map foldCase ++ behind.map foldCase := by
    rw [← List.map_append, ← List.map_append, same]
  have lengths : start.length = other.length := by
    rcases List.prefix_or_prefix_of_prefix (List.prefix_append _ _) ⟨_, folded.symm⟩ with short | long
    · have equal := congrArg List.length (apart _ root _ another short)
      rwa [List.length_map, List.length_map] at equal
    · have equal := congrArg List.length (apart _ another _ root long)
      rw [List.length_map, List.length_map] at equal
      exact equal.symm
  exact List.append_inj_right same lengths

theorem ends_as_image_iff :
    endsAsImage rest = true ↔
      ∃ ending query, rest = ending ++ query ∧ ending.map foldCase ∈ imageExtensions ∧
        (query = [] ∨ query.head? = some '?') := by
  have asked : ∀ query : List Char,
      query.head?.all (· == '?') = true ↔ query = [] ∨ query.head? = some '?' := by
    intro query
    cases query <;> simp
  rw [endsAsImage, List.any_eq_true]
  constructor
  · intro found
    obtain ⟨extension, member, ends⟩ := found
    split at ends
    · next query dropped =>
      obtain ⟨ending, whole, rfl⟩ := drop_folded_eq_some.mp dropped
      exact ⟨ending, query, whole, member, (asked query).mp ends⟩
    · cases ends
  · intro parts
    obtain ⟨ending, query, whole, member, open_⟩ := parts
    refine ⟨ending.map foldCase, member, ?_⟩
    rw [drop_folded_eq_some.mpr ⟨ending, whole, rfl⟩]
    exact (asked query).mpr open_

theorem has_image_ending_iff :
    hasImageEnding rest = true ↔
      ∃ front behind, rest = front ++ '.' :: behind ∧ endsAsImage behind = true := by
  induction rest with
  | nil => simp [hasImageEnding]
  | cons char rest induction =>
      rw [hasImageEnding, Bool.or_eq_true, Bool.and_eq_true, beq_iff_eq, induction]
      constructor
      · intro found
        rcases found with ⟨rfl, ends⟩ | ⟨front, behind, rfl, ends⟩
        · exact ⟨[], rest, rfl, ends⟩
        · exact ⟨char :: front, behind, rfl, ends⟩
      · intro parts
        obtain ⟨front, behind, whole, ends⟩ := parts
        cases front with
        | nil =>
            obtain ⟨rfl, rfl⟩ := List.cons.inj whole
            exact .inl ⟨rfl, ends⟩
        | cons first front =>
            obtain ⟨-, inner⟩ := List.cons.inj whole
            exact .inr ⟨front, behind, inner, ends⟩

theorem is_image_address_iff :
    isImageAddress value = true ↔
      ∃ start rest, value = start ++ rest ∧ start.map foldCase ∈ imageRoots ∧
        (∀ char ∈ rest, Clean char) ∧ hasImageEnding (rest.drop 1) = true := by
  have clean : ∀ rest : List Char, rest.all isAddressChar = true ↔ ∀ char ∈ rest, Clean char := by
    intro rest
    simp only [List.all_eq_true, is_address_char_iff]
  rw [isImageAddress]
  constructor
  · intro address
    split at address
    · next rest found =>
      obtain ⟨root, member, dropped⟩ := List.exists_of_findSome?_eq_some found
      obtain ⟨start, whole, rfl⟩ := drop_folded_eq_some.mp dropped
      obtain ⟨allClean, ending⟩ := Bool.and_eq_true_iff.mp address
      exact ⟨start, rest, whole, member, (clean rest).mp allClean, ending⟩
    · cases address
  · intro parts
    obtain ⟨start, rest, whole, member, allClean, ending⟩ := parts
    have dropped := drop_folded_eq_some.mpr ⟨start, whole, rfl⟩
    have some : (imageRoots.findSome? fun root => dropFolded root value).isSome = true := by
      rw [List.isSome_findSome?, List.any_eq_true]
      exact ⟨_, member, Option.isSome_of_eq_some dropped⟩
    obtain ⟨behind, found⟩ := Option.isSome_iff_exists.mp some
    obtain ⟨root, inside, other⟩ := List.exists_of_findSome?_eq_some found
    obtain ⟨front, parts, rfl⟩ := drop_folded_eq_some.mp other
    obtain rfl := root_unique member inside (whole.symm.trans parts)
    rw [found]
    exact Bool.and_eq_true_iff.mpr ⟨(clean rest).mpr allClean, ending⟩

theorem image_address_parts :
    isImageAddress value = true ↔
      ∃ start stem ending query, Addresses value start stem ending query := by
  have settledRoots : ∀ root ∈ imageRoots, ∀ letter ∈ root, foldCase letter = letter := by decide
  have settledExtensions : ∀ extension ∈ imageExtensions, ∀ letter ∈ extension,
      foldCase letter = letter := by decide
  have roots := spelled_in_iff settledRoots
  have extensions := spelled_in_iff settledExtensions
  rw [is_image_address_iff]
  constructor
  · intro parts
    obtain ⟨start, rest, rfl, root, clean, ends⟩ := parts
    obtain ⟨front, behind, split, extension⟩ := has_image_ending_iff.mp ends
    obtain ⟨ending, query, rfl, known, asked⟩ := ends_as_image_iff.mp extension
    cases rest with
    | nil => cases front <;> cases split
    | cons first rest =>
        rw [List.drop_succ_cons, List.drop_zero] at split
        rw [split] at clean ⊢
        refine ⟨start, first :: front, ending, query, ?_, (roots start).mp root,
          List.cons_ne_nil _ _, (extensions ending).mp known, asked, ?_⟩
        · simp only [List.append_assoc, List.cons_append]
        · simpa only [List.append_assoc, List.cons_append] using clean
  · intro parts
    obtain ⟨start, stem, ending, query, address⟩ := parts
    obtain ⟨first, front, rfl⟩ := List.exists_cons_of_ne_nil address.filled
    refine ⟨start, first :: front ++ '.' :: ending ++ query, ?_, (roots start).mpr address.root,
      address.clean, ?_⟩
    · rw [address.whole]
      simp only [List.append_assoc]
    · apply has_image_ending_iff.mpr
      refine ⟨front, ending ++ query, ?_, ?_⟩
      · simp only [List.cons_append, List.append_assoc, List.drop_succ_cons, List.drop_zero]
      · apply ends_as_image_iff.mpr
        exact ⟨ending, query, rfl, (extensions ending).mpr address.extension, address.asked⟩

end Parts

/-! ## The tag of an image -/

section Tags

variable {value : List Char}

instance : DecidablePred Clean := fun _ => inferInstanceAs (Decidable (_ ∧ _))

theorem clean_of_folds {char letter : Char} (folds : Folds char letter) (clean : Clean letter) :
    Clean char := by
  cases folds with
  | same => exact clean
  | capital capital => exact of_capital Clean (by decide) capital
  | longS => decide
  | kelvin => decide

/-- All of an address is clean, its root as well as what stands behind it. -/
theorem clean_of_address (address : isImageAddress value = true) : ∀ char ∈ value, Clean char := by
  have letters : ∀ root ∈ imageRoots, ∀ letter ∈ root, Clean letter := by decide
  obtain ⟨start, rest, rfl, root, clean, -⟩ := is_image_address_iff.mp address
  intro char member
  rcases List.mem_append.mp member with front | behind
  · have letter := letters _ root _ (List.mem_map_of_mem front)
    exact clean_of_folds (folds_fold_case char) letter
  · exact clean char behind

theorem image_tag_frame (value : List Char) :
    ∃ closing, imageTag value =
        "<img ".toList ++ ("src=\x22".toList ++ (value ++ '\x22' :: closing)) ∧
      '<' ∉ closing ∧ closing.count '>' = 1 := by
  refine ⟨(imageTag []).drop 11, ?_, ?_, ?_⟩
  · unfold imageTag
    rw [List.append_assoc]
    rfl
  · decide
  · decide

/-- Without a quote in it the address is all that stands between the quotes of the source. -/
theorem source_of_image_tag (noQuote : '\x22' ∉ value) :
    between? "src=\x22".toList ['\x22'] (imageTag value) = some value := by
  obtain ⟨closing, whole, -⟩ := image_tag_frame value
  have fresh : 's' ∉ "<img ".toList := by decide
  have opened : cutAt? "src=\x22".toList (imageTag value) =
      some ("<img ".toList, value ++ '\x22' :: closing) := by
    rw [whole]
    exact cut_at_fresh fresh "rc=\x22".toList (value ++ '\x22' :: closing)
  have closed : cutAt? ['\x22'] (value ++ '\x22' :: closing) = some (value, closing) :=
    cut_at_fresh noQuote [] closing
  rw [between?, opened, Option.bind_some]
  exact congrArg (Option.map Prod.fst) closed

/-- A value is shown as an image exactly if it splits into the parts of an address. In the tag that shows
it, it is all that stands between the quotes of the source, and no other tag begins or ends. -/
theorem image_tag_safe (value : List Char) :
    (isImageAddress value = true ↔
      ∃ start stem ending query, Addresses value start stem ending query) ∧
      ∀ window tag, embed? value window = some tag →
        (∀ char ∈ value, Clean char) ∧ tag.count '<' = 1 ∧ tag.count '>' = 1 ∧
          between? "src=\x22".toList ['\x22'] tag = some value := by
  refine ⟨image_address_parts, ?_⟩
  intro window tag shown
  rw [embed?, Option.ite_none_right_eq_some, Bool.and_eq_true] at shown
  obtain ⟨⟨address, -⟩, same⟩ := shown
  rw [← Option.some.inj same]
  have clean := clean_of_address address
  have noQuote : '\x22' ∉ value := fun member => (clean _ member).2.1 rfl
  have noOpener : '<' ∉ value := fun member => (clean _ member).2.2.2.1 rfl
  have noCloser : '>' ∉ value := fun member => (clean _ member).2.2.2.2 rfl
  obtain ⟨closing, whole, noOther, oneCloser⟩ := image_tag_frame value
  refine ⟨clean, ?_, ?_, source_of_image_tag noQuote⟩
  · simp [whole, List.count_eq_zero.mpr noOpener, List.count_eq_zero.mpr noOther]
  · simp [whole, List.count_eq_zero.mpr noCloser, oneCloser]

/-- A root with a capital and a long s, and two places where the stem can end. -/
def twiceSplit : List Char := "HTTP\u017f://a.png?b.JPEG".toList

theorem image_tag_safe_twice_split :
    Addresses twiceSplit "HTTP\u017f://".toList "a".toList "png".toList "?b.JPEG".toList ∧
      Addresses twiceSplit "HTTP\u017f://".toList "a.png?b".toList "JPEG".toList [] ∧
      between? "src=\x22".toList ['\x22'] (imageTag twiceSplit) = some twiceSplit := by
  have root : SpelledAs "HTTP\u017f://".toList "https://".toList :=
    (spelled_as_iff (by decide)).mpr (by decide)
  have extension : SpelledAs "JPEG".toList "jpeg".toList :=
    (spelled_as_iff (by decide)).mpr (by decide)
  have other : SpelledAs "png".toList "png".toList :=
    (spelled_as_iff (by decide)).mpr (by decide)
  have early : Addresses twiceSplit "HTTP\u017f://".toList "a".toList "png".toList "?b.JPEG".toList :=
    ⟨by decide, ⟨_, by simp, root⟩, by decide, ⟨_, by simp, other⟩, by decide, by decide⟩
  have late : Addresses twiceSplit "HTTP\u017f://".toList "a.png?b".toList "JPEG".toList [] :=
    ⟨by decide, ⟨_, by simp, root⟩, by decide, ⟨_, by simp, extension⟩, by decide, by decide⟩
  have address : isImageAddress twiceSplit = true :=
    (image_tag_safe twiceSplit).1.mpr ⟨_, _, _, _, late⟩
  have shown : embed? twiceSplit "<p>".toList = some (imageTag twiceSplit) := by
    rw [embed?, address]
    rfl
  exact ⟨early, late, ((image_tag_safe twiceSplit).2 _ _ shown).2.2.2⟩

end Tags

end SchoolNotice.Template
