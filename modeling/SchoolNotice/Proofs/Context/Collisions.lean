import SchoolNotice.Proofs.Context.Respelling
import SchoolNotice.Proofs.Text.ByteOrder

/-!
Keys that fall together. An object folds to one with the snake case of its keys, and for each of them one member
gives its value: the member under that very key, and if there is none, the one whose key comes first. Nothing
else changes.
-/

namespace SchoolNotice

open SchoolNotice.Text

namespace Json

/-- The key whose value stays under a key in snake case: that key itself if it is there, and else the first by
its bytes of those that fold to it. -/
structure Wins (keys : List String) (key source : String) : Prop where
  inside : source ∈ keys
  image : KeyCase.snakeKey source = key
  own : key ∈ keys → source = key
  first : key ∉ keys → ∀ other ∈ keys, KeyCase.snakeKey other = key →
    Utf8.bytes source.toList ≤ Utf8.bytes other.toList

/-- The second value is the first with its keys in snake case. -/
inductive FoldsTo : Json → Json → Prop
  | null : FoldsTo .null .null
  | bool (value : Bool) : FoldsTo (.bool value) (.bool value)
  | number (value : Number) : FoldsTo (.number value) (.number value)
  | string (value : String) : FoldsTo (.string value) (.string value)
  | array {items others : List Json} (length : items.length = others.length)
      (each : ∀ place (inside : place < items.length) (also : place < others.length),
        FoldsTo items[place] others[place]) : FoldsTo (.array items) (.array others)
  | object {members others : List (String × Json)} (order : Members.Sorted others)
      (keys : ∀ key, key ∈ Members.keys others ↔
        ∃ source ∈ Members.keys members, KeyCase.snakeKey source = key)
      (values : ∀ key source value other, Wins (Members.keys members) key source →
        Members.get? source members = some value → Members.get? key others = some other →
          FoldsTo value other) : FoldsTo (.object members) (.object others)

/-- In growing order, the first key with a property is the least. -/
theorem exists_least {keys : List String} (order : keys.Pairwise (· < ·)) {property : String → Bool}
    (some : ∃ key ∈ keys, property key) :
    ∃ least ∈ keys, property least ∧ ∀ other ∈ keys, property other → least ≤ other := by
  obtain ⟨least, found⟩ := Option.isSome_iff_exists.mp (List.find?_isSome.mpr some)
  obtain ⟨holds, before, after, rfl, none⟩ := List.find?_eq_some_iff_append.mp found
  have below := (List.pairwise_cons.mp (List.pairwise_append.mp order).2.1).1
  apply Exists.intro least
  apply And.intro (List.mem_append_right before List.mem_cons_self)
  apply And.intro holds
  intro other inside also
  rcases List.mem_append.mp inside with early | late
  · have fails := none other early
    rw [also] at fails
    exact absurd fails Bool.false_ne_true
  · rcases List.mem_cons.mp late with rfl | later
    · exact String.le_refl other
    · exact Std.le_of_lt (below other later)

/-- Every key that keys fold to is taken from one of them. -/
theorem exists_wins {keys : List String} (order : keys.Pairwise (· < ·)) {key : String}
    (image : ∃ source ∈ keys, KeyCase.snakeKey source = key) : ∃ source, Wins keys key source := by
  by_cases own : key ∈ keys
  · obtain ⟨source, _, rfl⟩ := image
    have small := (KeyCase.snake_key_eq_iff _).mpr (KeyCase.snake_key_small source)
    exact ⟨KeyCase.snakeKey source, own, small, fun _ => rfl, fun absent => absurd own absent⟩
  · have some : ∃ source ∈ keys, KeyCase.snakeKey source == key :=
      image.imp fun source same => ⟨same.1, beq_iff_eq.mpr same.2⟩
    obtain ⟨source, inside, same, least⟩ := exists_least order some
    apply Exists.intro source
    constructor
    case inside => exact inside
    case image => exact eq_of_beq same
    case own => exact fun present => absurd present own
    case first =>
      intro _ other also image
      exact (Utf8.bytes_le_iff source other).mpr (least other also (beq_iff_eq.mpr image))

namespace Members

theorem mem_keys_iff {key : String} {members : Members} :
    key ∈ members.keys ↔ ∃ value, get? key members = some value := by
  rw [← Option.ne_none_iff_exists', Ne, get_eq_none_iff, not_not]

theorem get_of_mem {key : String} {value : Json} {members : Members} (distinct : members.keys.Nodup)
    (inside : (key, value) ∈ members) : get? key members = some value := by
  induction members with
  | nil => cases inside
  | cons first rest induction =>
      have apart := List.nodup_cons.mp distinct
      rw [get?]
      rcases List.mem_cons.mp inside with rfl | behind
      · rw [if_pos rfl]
      · have different : first.1 ≠ key := fun same => apart.1 (same ▸ List.mem_map_of_mem behind)
        rw [if_neg different]
        exact induction apart.2 behind

/-- What is found under its keys is all there is to an object. -/
theorem eq_of_get {members others : Members} (sorted : Sorted members) (also : Sorted others)
    (same : ∀ key, get? key members = get? key others) : members = others := by
  have distinct := distinct_of_sorted sorted
  have apart := distinct_of_sorted also
  apply eq_of_perm sorted also
  apply (List.perm_ext_iff_of_nodup (distinct.of_map Prod.fst) (apart.of_map Prod.fst)).mpr
  intro member
  constructor
  · intro inside
    apply mem_of_get
    rw [← same]
    exact get_of_mem distinct inside
  · intro inside
    apply mem_of_get
    rw [same]
    exact get_of_mem apart inside

theorem get_append (key : String) (members others : Members) :
    get? key (members ++ others) = (get? key members).or (get? key others) := by
  induction members with
  | nil => rfl
  | cons first rest induction =>
      rw [List.cons_append, get?, get?]
      split
      · rfl
      · exact induction

theorem get_filter (property : String → Bool) (key : String) (members : Members) :
    get? key (members.filter fun member => property member.1) =
      if property key then get? key members else none := by
  induction members with
  | nil => split <;> rfl
  | cons first rest induction =>
      rw [List.filter_cons]
      by_cases same : first.1 = key
      · rw [same]
        split
        · rw [get?, if_pos same, get?, if_pos same]
        next fails => rw [induction, if_neg fails]
      · rw [get?, if_neg same, ← induction]
        split
        · rw [get?, if_neg same]
        · rfl

theorem get_insert_absent (key other : String) (value : Json) (members : Members) :
    get? other (insertAbsent key value members) =
      (get? other members).or (get? other [(key, value)]) := by
  rw [insertAbsent, get?]
  cases found : get? key members with
  | some old =>
      rw [Option.isSome_some, if_pos rfl]
      split
      next same => rw [← same, found, Option.some_or]
      next => exact (Option.or_none).symm
  | none =>
      rw [Option.isSome_none, if_neg Bool.false_ne_true]
      split
      next same => rw [← same, get_insert_self, found, Option.none_or]
      next different => rw [get_insert_ne different, get?, Option.or_none]

theorem get_put_absent (key : String) (pairs members : Members) :
    get? key (pairs.foldl (fun folded pair => insertAbsent pair.1 pair.2 folded) members) =
      get? key (members ++ pairs) := by
  induction pairs generalizing members with
  | nil => rw [List.foldl_nil, List.append_nil]
  | cons first rest induction =>
      rw [List.foldl_cons, induction, get_append, get_insert_absent, Option.or_assoc, ← get_append,
        ← get_append]
      rfl

theorem get_renamed (key : String) (members : Members) :
    get? key (renamed members) = get? key (laidOut members) := by
  rw [laidOut, ← get_put_absent, List.foldl_map]
  rfl

theorem mem_keys_renamed {key : String} {members : Members} :
    key ∈ (renamed members).keys ↔ ∃ source ∈ members.keys, KeyCase.snakeKey source = key := by
  have found : key ∈ (renamed members).keys ↔ key ∈ (laidOut members).keys := by
    rw [← not_iff_not, ← get_eq_none_iff, ← get_eq_none_iff, get_renamed]
  rw [found, (keys_perm (laid_out_perm members)).mem_iff, keys_snake_members, List.mem_map]

theorem get_snake_members {members : Members} (sorted : Sorted members) {key source : String}
    (inside : source ∈ members.keys) (image : KeyCase.snakeKey source = key)
    (least : ∀ other ∈ members.keys, KeyCase.snakeKey other = key → source ≤ other) :
    get? key (members.map snakeMember) = get? source members := by
  induction members with
  | nil => cases inside
  | cons first rest induction =>
      have behind := List.pairwise_cons.mp sorted
      rw [List.map_cons, get?, get?]
      rcases List.mem_cons.mp inside with same | later
      · rw [if_pos same.symm, snakeMember, ← same, if_pos image]
      · have before : first.1 < source := behind.1 source later
        have different : KeyCase.snakeKey first.1 ≠ key := by
          intro same
          exact String.not_lt.mpr (least first.1 List.mem_cons_self same) before
        rw [if_neg (String.ne_of_lt before), snakeMember, if_neg different]
        exact induction behind.2 later fun other also => least other (List.mem_cons_of_mem first.1 also)

theorem get_laid_out {members : Members} (sorted : Sorted members) {key source : String}
    (wins : Wins members.keys key source) : get? key (laidOut members) = get? source members := by
  have kept := get_filter (fun name => KeyCase.snakeKey name == name) key members
  rw [laidOut, get_append, kept]
  -- A key that is there keeps its value among the first members. For any other the renamed ones decide, whose own
  -- keys still grow, so that the first to fold to it is the least.
  by_cases own : key ∈ members.keys
  · have same := wins.own own
    have small : KeyCase.snakeKey key = key := same ▸ wins.image
    obtain ⟨value, found⟩ := mem_keys_iff.mp own
    rw [if_pos (beq_iff_eq.mpr small), same, found, Option.some_or]
  · rw [get_eq_none_iff.mpr own, ite_self, Option.none_or]
    have different : KeyCase.snakeKey source ≠ source := by
      rw [wins.image]
      exact fun same => own (same ▸ wins.inside)
    have changed := get_filter (fun name => KeyCase.snakeKey name != name) source members
    rw [if_pos (bne_iff_ne.mpr different)] at changed
    rw [← changed]
    have part := (List.filter_sublist (p := fun member => KeyCase.snakeKey member.1 != member.1)
      (l := members)).map Prod.fst
    apply get_snake_members (List.Pairwise.sublist part sorted)
    case inside =>
      rw [mem_keys_iff, changed, ← mem_keys_iff]
      exact wins.inside
    case image => exact wins.image
    case least =>
      intro other inside also
      exact (Utf8.bytes_le_iff source other).mp (wins.first own other (part.subset inside) also)

end Members

theorem get_fold_members (key : String) (members : Members) :
    Members.get? key (foldMembers members) = (Members.get? key members).map foldKeys := by
  rw [fold_members_eq]
  induction members with
  | nil => rfl
  | cons first rest induction =>
      rw [List.map_cons, Members.get?, Members.get?]
      split
      · rfl
      · exact induction

theorem canonical_items_iff {items : List Json} :
    CanonicalItems items ↔ ∀ item ∈ items, item.Canonical := by
  induction items with
  | nil => exact ⟨fun _ => nofun, fun _ => trivial⟩
  | cons first rest induction => rw [CanonicalItems, induction, List.forall_mem_cons]

theorem canonical_members_iff {members : Members} :
    CanonicalMembers members ↔ ∀ member ∈ members, member.2.Canonical := by
  induction members with
  | nil => exact ⟨fun _ => nofun, fun _ => trivial⟩
  | cons first rest induction => rw [CanonicalMembers, induction, List.forall_mem_cons]

theorem sorted_fold_members {members : Members} (sorted : members.Sorted) :
    (Members.renamed (foldMembers members)).Sorted := by
  apply Members.sorted_renamed
  rw [Members.Sorted, keys_fold_members]
  exact sorted

theorem mem_keys_folded {key : String} {members : Members} :
    key ∈ Members.keys (Members.renamed (foldMembers members)) ↔
      ∃ source ∈ members.keys, KeyCase.snakeKey source = key := by
  rw [Members.mem_keys_renamed, keys_fold_members]

theorem get_folded {members : Members} (sorted : members.Sorted) {key source : String}
    (wins : Wins members.keys key source) :
    Members.get? key (Members.renamed (foldMembers members)) =
      (Members.get? source members).map foldKeys := by
  rw [← keys_fold_members] at wins
  rw [Members.Sorted, ← keys_fold_members] at sorted
  rw [Members.get_renamed, Members.get_laid_out sorted wins, get_fold_members]

mutual

theorem folds_to_fold_keys (data : Json) (canonical : data.Canonical) :
    FoldsTo data (foldKeys data) := by
  cases data with
  | array items =>
      rw [foldKeys, fold_items_eq]
      apply FoldsTo.array (List.length_map foldKeys).symm
      intro place inside also
      rw [List.getElem_map]
      exact folds_to_fold_items items canonical items[place] (List.getElem_mem inside)
  | object members =>
      apply FoldsTo.object (sorted_fold_members canonical.1) fun key => mem_keys_folded
      intro key source value other wins taken found
      rw [get_folded canonical.1 wins, taken] at found
      cases found
      exact folds_to_fold_members members canonical.2 (source, value) (Members.mem_of_get taken)
  | null => exact .null
  | bool value => exact .bool value
  | number value => exact .number value
  | string value => exact .string value

theorem folds_to_fold_items (items : List Json) (canonical : CanonicalItems items) :
    ∀ item ∈ items, FoldsTo item (foldKeys item) := by
  cases items with
  | nil => nofun
  | cons first rest =>
      rw [List.forall_mem_cons]
      exact ⟨folds_to_fold_keys first canonical.1, folds_to_fold_items rest canonical.2⟩

theorem folds_to_fold_members (members : Members) (canonical : CanonicalMembers members) :
    ∀ member ∈ members, FoldsTo member.2 (foldKeys member.2) := by
  match members with
  | [] => nofun
  | (key, value) :: rest =>
      rw [List.forall_mem_cons]
      exact ⟨folds_to_fold_keys value canonical.1, folds_to_fold_members rest canonical.2⟩

end

/-- There is one value at most that data folds to. -/
theorem fold_keys_of_folds_to {data folded : Json} (canonical : data.Canonical)
    (folds : FoldsTo data folded) : foldKeys data = folded := by
  induction folds with
  | array length each induction =>
      rw [foldKeys, fold_items_eq]
      congr 1
      apply List.ext_getElem (by rw [List.length_map, length])
      intro place inside also
      rw [List.length_map] at inside
      rw [List.getElem_map]
      exact induction place inside also (canonical_items_iff.mp canonical _ (List.getElem_mem inside))
  | @object members others order keys values induction =>
      rw [foldKeys]
      congr 1
      apply Members.eq_of_get (sorted_fold_members canonical.1) order
      intro key
      by_cases inside : key ∈ Members.keys others
      · obtain ⟨source, wins⟩ := exists_wins canonical.1 ((keys key).mp inside)
        obtain ⟨value, taken⟩ := Members.mem_keys_iff.mp wins.inside
        obtain ⟨other, found⟩ := Members.mem_keys_iff.mp inside
        have below := canonical_members_iff.mp canonical.2 _ (Members.mem_of_get taken)
        rw [get_folded canonical.1 wins, taken, found]
        exact congrArg some (induction key source value other wins taken found below)
      · have absent := inside
        rw [keys, ← mem_keys_folded] at absent
        rw [Members.get_eq_none_iff.mpr absent, Members.get_eq_none_iff.mpr inside]
  | _ => rfl

/-- Folding changes the keys of objects and nothing else, and of all that fall together under one key, the key
itself or else the first of them gives the value. -/
theorem fold_keys_eq_iff {data : Json} (canonical : data.Canonical) (folded : Json) :
    foldKeys data = folded ↔ FoldsTo data folded := by
  constructor
  · intro same
    rw [← same]
    exact folds_to_fold_keys data canonical
  · exact fold_keys_of_folds_to canonical

theorem fold_keys_eq_iff_colliding :
    let data := Json.object [
      ("AB", .string "capitals"),
      ("aB", .string "camel"),
      ("pupils", .array [.object [("firstName", .string "camel"), ("first_name", .string "snake")]])]
    let folded := Json.object [
      ("a_b", .string "capitals"),
      ("pupils", .array [.object [("first_name", .string "snake")]])]
    data.Canonical ∧ FoldsTo data folded := by
  intro data folded
  have canonical : data.Canonical := by
    simp only [data, Canonical, CanonicalItems, CanonicalMembers, Members.Sorted, Members.keys]
    decide
  have same : foldKeys data = folded := rfl
  exact ⟨canonical, (fold_keys_eq_iff canonical folded).mp same⟩

end Json

end SchoolNotice
