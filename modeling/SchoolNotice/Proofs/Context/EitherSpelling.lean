import SchoolNotice.Proofs.Context.Collisions
import SchoolNotice.Proofs.Text.KeyWord

/-!
Paths into data as it comes, some of whose keys may be in camel case. Data and path may each choose the spelling of
every key: what is found is what stands where the path leads when all keys are in snake case.
-/

namespace SchoolNotice

open SchoolNotice.Text

namespace Json

namespace Members

/-- Every key is a spelling of its snake case, and no two keys are spellings of one. -/
structure Spelled (others : Members) : Prop where
  distinct : (others.keys.map KeyCase.snakeKey).Nodup
  spelling : ∀ member ∈ others, KeyCase.Spelling (KeyCase.snake member.1.toList) member.1.toList

variable {others : Members}

theorem Spelled.same (spelled : Spelled others) {first second : String × Json}
    (inside : first ∈ others) (also : second ∈ others)
    (image : KeyCase.snakeKey first.1 = KeyCase.snakeKey second.1) : first = second := by
  have distinct := spelled.distinct
  rw [keys, List.map_map] at distinct
  exact List.inj_on_of_nodup_map distinct inside also image

theorem Spelled.get_iff (spelled : Spelled others) {name : String} {found : Json} :
    get? name (ofList others) = some found ↔ (name, found) ∈ others := by
  have distinct : others.keys.Nodup := spelled.distinct.of_map KeyCase.snakeKey
  have perm := of_list_perm distinct
  constructor
  · intro there
    exact perm.subset (mem_of_get there)
  · intro inside
    exact get_of_mem ((keys_perm perm).nodup_iff.mpr distinct) (perm.symm.subset inside)

/-- Once the keys are in snake case, under a word stands what stood under one of its spellings. -/
theorem Spelled.get_snake_iff (spelled : Spelled others) {key : List Char} (word : KeyCase.Word key)
    {found : Json} :
    get? (String.ofList key) (others.map snakeMember) = some found ↔
      ∃ name, KeyCase.Spelling key name.toList ∧ (name, found) ∈ others := by
  constructor
  · intro there
    obtain ⟨member, inside, image⟩ := List.mem_map.mp (mem_of_get there)
    obtain ⟨named, rfl⟩ := Prod.mk.inj image
    have spelling := spelled.spelling member inside
    rw [String.ofList_inj.mp named] at spelling
    exact ⟨member.1, spelling, inside⟩
  · intro there
    obtain ⟨name, spelling, inside⟩ := there
    have distinct := spelled.distinct
    rw [← keys_snake_members] at distinct
    have image : snakeMember (name, found) = (String.ofList key, found) := by
      rw [snakeMember, KeyCase.snakeKey, KeyCase.snake_spelling word.plain spelling]
    apply get_of_mem distinct
    rw [← image]
    exact List.mem_map_of_mem inside

end Members

/-- Whichever spelling of a word is looked up, the member under either of them is found. -/
theorem hop_spelled {others : Members} (spelled : Members.Spelled others) {key segment : List Char}
    (word : KeyCase.Word key) (spelling : KeyCase.Spelling key segment) :
    hop segment (Members.ofList others) =
      Members.get? (String.ofList key) (others.map Members.snakeMember) := by
  apply Option.ext
  intro found
  rw [hop_eq, Option.or_eq_some_iff, Option.bind_eq_some_iff, spelled.get_snake_iff word]
  simp only [spelled.get_iff]
  constructor
  · rintro (here | ⟨_, other, derived, there⟩)
    · exact ⟨String.ofList segment, by rwa [String.toList_ofList], here⟩
    · have also := (KeyCase.spelling_iff word spelling other).mpr (.inr derived)
      exact ⟨String.ofList other, by rwa [String.toList_ofList], there⟩
  · rintro ⟨name, also, inside⟩
    rcases (KeyCase.spelling_iff word spelling name.toList).mp also with same | derived
    · rw [← same, String.ofList_toList]
      exact .inl inside
    · cases here : Members.get? (String.ofList segment) (Members.ofList others) with
      | none => exact .inr ⟨rfl, name.toList, derived, by rwa [String.ofList_toList]⟩
      | some value =>
          -- Both spellings are there: then they are one key, since no two fall together.
          have beside := spelled.get_iff.mp here
          have image : KeyCase.snakeKey (String.ofList segment) = KeyCase.snakeKey name := by
            rw [KeyCase.snakeKey, KeyCase.snakeKey, String.toList_ofList]
            rw [KeyCase.snake_spelling word.plain spelling, KeyCase.snake_spelling word.plain also]
          cases spelled.same beside inside image
          exact .inl inside

def Beside (members others : Members) : Prop :=
  List.Forall₂ (fun member other =>
    KeyCase.Spelling member.1.toList other.1.toList ∧ Respelled member.2 other.2) members others

theorem beside_of_respelled {members others : Members} (respelled : RespelledMembers members others) :
    Beside members others := by
  cases members with
  | nil =>
      cases respelled
      exact .nil
  | cons member rest =>
      cases respelled with
      | keep first behind => exact .cons ⟨.plain, first⟩ (beside_of_respelled behind)
      | @respell key _ _ _ _ first behind =>
          have spelling : KeyCase.Spelling key.toList (KeyCase.camelKey key).toList := by
            rw [KeyCase.camelKey, String.toList_ofList]
            exact .camel
          exact .cons ⟨spelling, first⟩ (beside_of_respelled behind)

section Beside

variable {members others : Members}

def Worded (members : Members) : Prop :=
  AllKeysMembers (fun key => KeyCase.Word key.toList) members

theorem snake_beside {member other : String × Json} (word : KeyCase.Word member.1.toList)
    (spelling : KeyCase.Spelling member.1.toList other.1.toList) :
    KeyCase.snakeKey other.1 = member.1 := by
  rw [KeyCase.snakeKey, KeyCase.snake_spelling word.plain spelling, String.ofList_toList]

theorem keys_beside (beside : Beside members others) (worded : Worded members) :
    (Members.keys others).map KeyCase.snakeKey = members.keys := by
  induction beside with
  | nil => rfl
  | cons pair behind induction =>
      rw [Members.keys, List.map_cons, List.map_cons, snake_beside worded.1 pair.1]
      exact congrArg (List.cons _) (induction worded.2.2)

theorem spelled_beside (beside : Beside members others) (worded : Worded members)
    (sorted : Members.Sorted members) : Members.Spelled others := by
  constructor
  case distinct =>
    rw [keys_beside beside worded]
    exact Members.distinct_of_sorted sorted
  case spelling =>
    clear sorted
    induction beside with
    | nil => exact List.forall_mem_nil _
    | cons pair behind induction =>
        rw [List.forall_mem_cons]
        constructor
        · rw [KeyCase.snake_spelling worded.1.plain pair.1]
          exact pair.1
        · exact induction worded.2.2

theorem get_beside (beside : Beside members others) (worded : Worded members) (key : String) :
    Option.Rel Respelled (Members.get? key members)
      (Members.get? key (others.map Members.snakeMember)) := by
  induction beside with
  | nil => exact .none
  | cons pair behind induction =>
      rw [List.map_cons, Members.get?, Members.get?, Members.snakeMember, snake_beside worded.1 pair.1]
      split
      · exact .some pair.2
      · exact induction worded.2.2

theorem hop_place (beside : Beside members others) (worded : Worded members)
    (sorted : Members.Sorted members) {key segment : List Char} (word : KeyCase.Word key)
    (spelling : KeyCase.Spelling key segment) (found : Json) :
    hop segment (Members.ofList others) = some found ↔
      ∃ place, KeyCase.Spelling key place ∧
        Members.get? (String.ofList place) (Members.ofList others) = some found := by
  have spelled := spelled_beside beside worded sorted
  rw [hop_spelled spelled word spelling, spelled.get_snake_iff word]
  constructor
  · rintro ⟨name, also, inside⟩
    apply Exists.intro name.toList
    rw [String.ofList_toList]
    exact ⟨also, spelled.get_iff.mpr inside⟩
  · rintro ⟨place, also, there⟩
    apply Exists.intro (String.ofList place)
    rw [String.toList_ofList]
    exact ⟨also, spelled.get_iff.mp there⟩

end Beside

/-- The second value is the first, all of whose keys are words, with some of its keys in camel case. -/
structure Respells (data other : Json) : Prop where
  canonical : data.Canonical
  worded : data.AllKeys fun key => KeyCase.Word key.toList
  respelled : Respelled data other

/-- One step leads to the same member in the data and in the respelled data. -/
theorem Respells.step {members : Members} {other : Json} (respells : Respells (.object members) other) :
    ∃ others, other = .object others ∧ ∀ key segment, KeyCase.Word key → KeyCase.Spelling key segment →
      Option.Rel Respells (Members.get? (String.ofList key) members) (hop segment others) ∧
        ∀ found, hop segment others = some found ↔ ∃ place, KeyCase.Spelling key place ∧
          Members.get? (String.ofList place) others = some found := by
  obtain ⟨⟨sorted, canonical⟩, worded, respelled⟩ := respells
  cases respelled with
  | @object _ others inside =>
      have beside := beside_of_respelled inside
      refine ⟨Members.ofList others, rfl, ?_⟩
      intro key segment word spelling
      constructor
      · have there := get_beside beside worded (String.ofList key)
        rw [hop_spelled (spelled_beside beside worded sorted) word spelling]
        generalize found : Members.get? (String.ofList key) members = taken at there ⊢
        generalize Members.get? (String.ofList key) (others.map Members.snakeMember) = next at there ⊢
        cases there with
        | none => exact .none
        | some below =>
            have member := Members.mem_of_get found
            exact .some ⟨canonical_members_iff.mp canonical _ member, all_keys_get worded found, below⟩
      · exact hop_place beside worded sorted word spelling

section Paths

variable {keys segments : List (List Char)} {data other : Json}

theorem descend_respelled (spelled : List.Forall₂ KeyCase.Spelling keys segments)
    (words : ∀ key ∈ keys, KeyCase.Word key) (respells : Respells data other) :
    Option.Rel Respells (walk keys data) (descend segments other) := by
  induction spelled generalizing data other with
  | nil => exact .some respells
  | @cons key segment _ _ spelling behind induction =>
      obtain ⟨word, rest⟩ := List.forall_mem_cons.mp words
      cases data with
      | object members =>
          obtain ⟨others, rfl, steps⟩ := respells.step
          have step := (steps key segment word spelling).1
          rw [walk, descend]
          generalize Members.get? (String.ofList key) members = taken at step ⊢
          generalize hop segment others = reached at step ⊢
          cases step with
          | none => exact .none
          | some below => exact induction rest below
      | _ =>
          cases respells.respelled
          exact .none

theorem descend_places (spelled : List.Forall₂ KeyCase.Spelling keys segments)
    (words : ∀ key ∈ keys, KeyCase.Word key) (respells : Respells data other) (found : Json) :
    descend segments other = some found ↔
      ∃ places, List.Forall₂ KeyCase.Spelling keys places ∧ walk places other = some found := by
  induction spelled generalizing data other with
  | nil =>
      constructor
      · intro here
        exact ⟨[], .nil, here⟩
      · intro there
        obtain ⟨places, nothing, here⟩ := there
        cases nothing
        exact here
  | @cons key segment _ _ spelling behind induction =>
      obtain ⟨word, rest⟩ := List.forall_mem_cons.mp words
      cases data with
      | object members =>
          obtain ⟨others, rfl, steps⟩ := respells.step
          obtain ⟨step, reached⟩ := steps key segment word spelling
          rw [descend, Option.bind_eq_some_iff]
          have onward {next : Json} (hopped : hop segment others = some next) :
              ∃ value, Respells value next := by
            rw [hopped] at step
            generalize Members.get? (String.ofList key) members = taken at step
            cases step with
            | some below => exact ⟨_, below⟩
          constructor
          · intro there
            obtain ⟨next, hopped, below⟩ := there
            obtain ⟨place, also, stands⟩ := (reached next).mp hopped
            obtain ⟨value, respelled⟩ := onward hopped
            obtain ⟨places, spelled, walked⟩ := (induction rest respelled).mp below
            refine ⟨place :: places, .cons also spelled, ?_⟩
            rw [walk, stands]
            exact walked
          · intro there
            obtain ⟨_, spelled, walked⟩ := there
            cases spelled with
            | @cons _ place _ places also spelled =>
                rw [walk, Option.bind_eq_some_iff] at walked
                obtain ⟨next, stands, below⟩ := walked
                have hopped := (reached next).mpr ⟨place, also, stands⟩
                obtain ⟨value, respelled⟩ := onward hopped
                exact ⟨next, hopped, (induction rest respelled).mpr ⟨places, spelled, below⟩⟩
      | _ =>
          cases respells.respelled
          constructor
          · intro there
            cases there
          · intro there
            obtain ⟨_, spelled, walked⟩ := there
            cases spelled
            cases walked

/-- A path finds, in data some of whose keys were put into camel case, what became of the value to which its words lead
in the data as it was: the value at the one place whose keys are those words as they are spelled there. How the path
itself spells them makes no difference. It finds nothing exactly where the words lead nowhere. -/
theorem resolve_either_spelling (canonical : data.Canonical)
    (worded : data.AllKeys fun key => KeyCase.Word key.toList) (respelled : data.Respelled other)
    (keys : List (List Char)) (words : ∀ key ∈ keys, KeyCase.Word key) (path : List Char)
    (spelled : List.Forall₂ KeyCase.Spelling keys (split '.' path)) :
    (∀ value, walk keys data = some value →
      ∃ found, resolve? path other = some found ∧ Respelled value found) ∧
    (∀ found, resolve? path other = some found ↔
      ∃ places, List.Forall₂ KeyCase.Spelling keys places ∧ walk places other = some found) ∧
    (resolve? path other = none ↔ walk keys data = none) := by
  have respells : Respells data other := ⟨canonical, worded, respelled⟩
  have same := descend_respelled spelled words respells
  rw [resolve?]
  constructor
  · intro value led
    rw [led] at same
    generalize descend (split '.' path) other = reached at same ⊢
    cases same with
    | some below => exact ⟨_, rfl, below.respelled⟩
  constructor
  · exact descend_places spelled words respells
  · generalize walk keys data = led at same ⊢
    generalize descend (split '.' path) other = reached at same ⊢
    cases same with
    | none => exact iff_of_true rfl rfl
    | some _ => exact iff_of_false (Option.some_ne_none _) (Option.some_ne_none _)

theorem resolve_either_spelling_reordered :
    let data := Json.object [
      ("class_room", .object [("first_name", .string "Ana"), ("first_place", .string "Kobe")]),
      ("pupils", .null)]
    let other := Json.object [
      ("classRoom", .object [("firstPlace", .string "Kobe"), ("first_name", .string "Ana")]),
      ("pupils", .null)]
    data.Respelled other ∧ resolve? "class_room.firstName".toList other = some (.string "Ana") ∧
      resolve? "classRoom.first_place".toList other = some (.string "Kobe") ∧
        resolve? "classRoom.lastName".toList other = none := by
  intro data other
  have canonical : data.Canonical := by
    simp only [data, Canonical, CanonicalMembers, Members.Sorted, Members.keys]
    decide
  have worded : data.AllKeys fun key => KeyCase.Word key.toList := by
    simp only [data, AllKeys, AllKeysMembers]
    decide
  have room : Respelled (.object [("first_name", .string "Ana"), ("first_place", .string "Kobe")])
      (.object [("firstPlace", .string "Kobe"), ("first_name", .string "Ana")]) :=
    .object (.keep (.string "Ana") (.respell (.string "Kobe") .nil))
  have respelled : data.Respelled other := .object (.respell room (.keep .null .nil))
  have resolved := resolve_either_spelling canonical worded respelled
  have name := resolved ["class_room".toList, "first_name".toList] (by decide)
    "class_room.firstName".toList (.cons .plain (.cons .camel .nil))
  have place := resolved ["class_room".toList, "first_place".toList] (by decide)
    "classRoom.first_place".toList (.cons .camel (.cons .plain .nil))
  have absent := resolved ["class_room".toList, "last_name".toList] (by decide)
    "classRoom.lastName".toList (.cons .camel (.cons .camel .nil))
  constructor
  · exact respelled
  constructor
  · obtain ⟨found, there, same⟩ := name.1 (.string "Ana") rfl
    cases same
    exact there
  constructor
  · obtain ⟨found, there, same⟩ := place.1 (.string "Kobe") rfl
    cases same
    exact there
  · exact absent.2.2.mpr rfl

end Paths

end Json

end SchoolNotice
