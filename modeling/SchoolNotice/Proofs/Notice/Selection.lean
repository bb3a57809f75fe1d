import Mathlib.Data.List.Basic
import Mathlib.Data.List.Induction
import Mathlib.Data.Prod.Lex
import SchoolNotice.Delivery.Office

/-!
Which template a notice is made from. Of the tenant's active templates of the kind it is the greatest by default
flag and time of change, and of several such the one stored last; only a tenant without any gets the program's own.
Listing the templates moves none of them past its equals, so where one is the greatest alone the listing begins
with it.
-/

namespace SchoolNotice

namespace StoredTemplate

/-- The time of the last change: seconds first, then nanoseconds. -/
def changed (template : StoredTemplate) : ℤ ×ₗ ℕ :=
  toLex (template.updatedAt.seconds, template.updatedAt.nanos)

/-- Default templates come above others, and those changed later above those changed before. -/
def rank (template : StoredTemplate) : Bool ×ₗ ℤ ×ₗ ℕ := toLex (template.isDefault, template.changed)

theorem le_iff_changed (first second : StoredTemplate) :
    first.updatedAt.le second.updatedAt = true ↔ first.changed ≤ second.changed := by
  simp [Instant.le, changed, Prod.Lex.toLex_le_toLex]

theorem rank_le_iff (first second : StoredTemplate) : first.rank ≤ second.rank ↔
    first.isDefault < second.isDefault ∨
      first.isDefault = second.isDefault ∧ first.changed ≤ second.changed :=
  Prod.Lex.toLex_le_toLex

theorem rank_eq_iff (first second : StoredTemplate) : first.rank = second.rank ↔
    first.isDefault = second.isDefault ∧ first.changed = second.changed := by
  rw [rank, rank, toLex_inj, Prod.mk.injEq]

theorem listed_before_iff (first second : StoredTemplate) :
    listedBefore first second = true ↔ second.rank ≤ first.rank := by
  rw [rank_le_iff, listedBefore]
  split
  · next same => simp [le_iff_changed, same]
  · next different =>
    cases one : first.isDefault <;> cases other : second.isDefault <;> simp_all

section Foremost

variable {κ : Type} [LinearOrder κ] {value : StoredTemplate → κ} {templates : List StoredTemplate}
  {best other : StoredTemplate}

/-- The last in the list of the templates with the greatest value. -/
structure Foremost (value : StoredTemplate → κ) (templates : List StoredTemplate)
    (best : StoredTemplate) : Prop where
  greatest : ∀ other ∈ templates, value other ≤ value best
  last : ∃ before after, templates = before ++ best :: after ∧
    ∀ other ∈ after, value other ≠ value best

theorem Foremost.mem (foremost : Foremost value templates best) : best ∈ templates := by
  obtain ⟨before, after, rfl, _⟩ := foremost.last
  exact List.mem_append_cons_self

/-- The last template with its value is the last of all that have this value. -/
theorem last_iff : (∃ before after, templates = before ++ best :: after ∧
      ∀ other ∈ after, value other ≠ value best) ↔
    (templates.filter fun other => value other = value best).getLast? = some best := by
  constructor
  · rintro ⟨before, after, rfl, apart⟩
    have none_behind : (after.filter fun other => value other = value best) = [] := by
      rw [List.filter_eq_nil_iff]
      intro other behind
      rw [decide_eq_true_iff]
      exact apart other behind
    have kept : decide (value best = value best) = true := decide_eq_true rfl
    rw [List.filter_append, List.filter_cons, kept, if_pos rfl, none_behind]
    exact List.getLast?_concat
  · intro final
    obtain ⟨front, same⟩ := List.getLast?_eq_some_iff.mp final
    obtain ⟨before, behind, rfl, _, ends⟩ := List.filter_eq_append_iff.mp same
    obtain ⟨skipped, after, rfl, _, _, none_behind⟩ := List.filter_eq_cons_iff.mp ends
    refine ⟨before ++ skipped, after, by rw [List.append_assoc], ?_⟩
    intro other inside
    have not_same := List.filter_eq_nil_iff.mp none_behind other inside
    rwa [decide_eq_true_iff] at not_same

theorem foremost_unique (foremost : Foremost value templates best)
    (also : Foremost value templates other) : best = other := by
  have same : value best = value other :=
    le_antisymm (also.greatest best foremost.mem) (foremost.greatest other also.mem)
  have final := last_iff.mp foremost.last
  rw [same, last_iff.mp also.last] at final
  exact (Option.some.inj final).symm

end Foremost

theorem latest_concat (templates : List StoredTemplate) (template : StoredTemplate) :
    latest? (templates ++ [template]) =
      match latest? templates with
      | none => some template
      | some found =>
          if found.updatedAt.le template.updatedAt then some template else some found :=
  List.foldl_concat ..

/-- One that is no less than any takes their place if it is put at the end. -/
theorem foremost_concat {templates : List StoredTemplate} {template : StoredTemplate}
    (latest : ∀ other ∈ templates, other.changed ≤ template.changed) :
    Foremost changed (templates ++ [template]) template where
  greatest other inside := by
    rcases List.mem_append.mp inside with before | own
    · exact latest other before
    · rw [List.mem_singleton.mp own]
  last := ⟨templates, [], rfl, fun _ behind => absurd behind List.not_mem_nil⟩

theorem foremost_still {templates : List StoredTemplate} {found template : StoredTemplate}
    (foremost : Foremost changed templates found) (earlier : template.changed < found.changed) :
    Foremost changed (templates ++ [template]) found where
  greatest other inside := by
    rcases List.mem_append.mp inside with before | own
    · exact foremost.greatest other before
    · rw [List.mem_singleton.mp own]
      exact earlier.le
  last := by
    obtain ⟨before, after, rfl, apart⟩ := foremost.last
    refine ⟨before, after ++ [template], by rw [List.append_assoc]; rfl, ?_⟩
    intro other inside
    rcases List.mem_append.mp inside with behind | own
    · exact apart other behind
    · rw [List.mem_singleton.mp own]
      exact earlier.ne

/-- Of templates that were changed at the same time the last one in the list is taken for the latest. -/
theorem latest_foremost {templates : List StoredTemplate} (stored : templates ≠ []) :
    ∃ best, latest? templates = some best ∧ Foremost changed templates best := by
  induction templates using List.reverseRecOn with
  | nil => exact absurd rfl stored
  | append_singleton front template induction =>
      rw [latest_concat]
      by_cases nothing : front = []
      · subst nothing
        exact ⟨template, rfl, foremost_concat fun _ inside => absurd inside List.not_mem_nil⟩
      · obtain ⟨found, latest, foremost⟩ := induction nothing
        rw [latest]
        by_cases later : found.changed ≤ template.changed
        · refine ⟨template, ?_, foremost_concat fun other inside => ?_⟩
          · exact if_pos ((le_iff_changed found template).mpr later)
          · exact (foremost.greatest other inside).trans later
        · refine ⟨found, ?_, foremost_still foremost (not_le.mp later)⟩
          exact if_neg (mt (le_iff_changed found template).mp later)

/-- The foremost among those with its own default flag is foremost by rank, unless it is not a default one and
there are default ones. -/
theorem foremost_by_rank {templates : List StoredTemplate} {best : StoredTemplate}
    (foremost : Foremost changed
      (templates.filter fun template => template.isDefault == best.isDefault) best)
    (above : ∀ other ∈ templates, other.isDefault ≤ best.isDefault) :
    Foremost rank templates best where
  greatest other inside := by
    rw [rank_le_iff]
    rcases (above other inside).lt_or_eq with below | same
    · exact .inl below
    · have listed : other ∈ templates.filter fun template => template.isDefault == best.isDefault :=
        List.mem_filter.mpr ⟨inside, beq_iff_eq.mpr same⟩
      exact .inr ⟨same, foremost.greatest other listed⟩
  last := by
    have final := last_iff.mp foremost.last
    rw [List.filter_filter] at final
    rw [last_iff]
    convert final using 3
    funext other
    rw [Bool.eq_iff_iff, decide_eq_true_iff, rank_eq_iff, Bool.and_eq_true, decide_eq_true_iff,
      beq_iff_eq, and_comm]

/-- What is picked is foremost by rank, and something is picked from every list that is not empty. -/
theorem pick_foremost {templates : List StoredTemplate} (stored : templates ≠ []) :
    ∃ best, pick? templates = some best ∧ Foremost rank templates best := by
  by_cases defaults : (templates.filter fun template => template.isDefault) = []
  · have plain : ∀ other ∈ templates, other.isDefault = false := by
      intro other inside
      exact Bool.eq_false_iff.mpr (List.filter_eq_nil_iff.mp defaults other inside)
    have others : (templates.filter fun template => !template.isDefault) = templates := by
      apply List.filter_eq_self.mpr
      intro other inside
      rw [plain other inside]
      rfl
    obtain ⟨best, latest, foremost⟩ := latest_foremost stored
    have own := plain best foremost.mem
    refine ⟨best, ?_, foremost_by_rank ?_ ?_⟩
    · rw [pick?, defaults, others]
      exact latest
    · simp only [own, beq_false, others]
      exact foremost
    · intro other inside
      rw [plain other inside]
      exact Bool.false_le _
  · obtain ⟨best, latest, foremost⟩ := latest_foremost defaults
    have own := (List.mem_filter.mp foremost.mem).2
    refine ⟨best, ?_, foremost_by_rank ?_ ?_⟩
    · rw [pick?, latest]
    · simp only [own, beq_true]
      exact foremost
    · intro other _
      rw [own]
      exact Bool.le_true _

section Listing

variable {templates others : List StoredTemplate} {template best : StoredTemplate}

theorem listed_before_trans (first second third : StoredTemplate)
    (before : listedBefore first second = true) (also : listedBefore second third = true) :
    listedBefore first third = true := by
  rw [listed_before_iff] at before also ⊢
  exact also.trans before

theorem listed_before_total (first second : StoredTemplate) :
    (listedBefore first second || listedBefore second first) = true := by
  rw [Bool.or_eq_true, listed_before_iff, listed_before_iff]
  exact le_total second.rank first.rank

/-- Listing keeps templates of one rank in their order. -/
theorem filter_listed (templates : List StoredTemplate) (key : Bool ×ₗ ℤ ×ₗ ℕ) :
    (templates.mergeSort listedBefore).filter (fun template => template.rank = key) =
      templates.filter fun template => template.rank = key := by
  let equals := templates.filter fun template => template.rank = key
  have own : ∀ template ∈ equals, template.rank = key :=
    fun template inside => of_decide_eq_true (List.mem_filter.mp inside).2
  have in_order : equals.Pairwise fun first second => listedBefore first second = true := by
    apply List.pairwise_of_forall_mem_list
    intro first inside second also
    rw [listed_before_iff, own first inside, own second also]
  have within : equals.Sublist (templates.mergeSort listedBefore) :=
    List.sublist_mergeSort listed_before_trans listed_before_total in_order List.filter_sublist
  have kept := within.filter fun template => template.rank = key
  have all : equals.filter (fun template => template.rank = key) = equals :=
    List.filter_eq_self.mpr fun template inside => decide_eq_true (own template inside)
  rw [all] at kept
  have perm := (List.mergeSort_perm templates listedBefore).filter fun template =>
    template.rank = key
  exact (kept.eq_of_length perm.length_eq.symm).symm

theorem foremost_of_listed (foremost : Foremost rank (templates.mergeSort listedBefore) best) :
    Foremost rank templates best where
  greatest other inside := foremost.greatest other (List.mem_mergeSort.mpr inside)
  last := by
    have final := last_iff.mp foremost.last
    rw [filter_listed] at final
    exact last_iff.mpr final

structure Unrivalled (templates : List StoredTemplate) (template : StoredTemplate) : Prop where
  inside : template ∈ templates
  above : ∀ other ∈ templates, other ≠ template → other.rank < template.rank

theorem Unrivalled.perm (alone : Unrivalled templates template) (perm : List.Perm others templates) :
    Unrivalled others template where
  inside := perm.mem_iff.mpr alone.inside
  above other inside := alone.above other (perm.mem_iff.mp inside)

theorem Unrivalled.eq_of_le (alone : Unrivalled templates template) (inside : best ∈ templates)
    (no_lower : template.rank ≤ best.rank) : best = template := by
  by_contra different
  exact absurd (alone.above best inside different) (not_lt.mpr no_lower)

theorem unrivalled_iff : Unrivalled templates template ↔ template ∈ templates ∧
    ∀ other ∈ templates, other ≠ template → listedBefore other template = false := by
  have below (other : StoredTemplate) :
      other.rank < template.rank ↔ listedBefore other template = false := by
    rw [← not_le, ← listed_before_iff, Bool.not_eq_true]
  simp only [← below]
  exact ⟨fun alone => ⟨alone.inside, alone.above⟩, fun both => ⟨both.1, both.2⟩⟩

theorem pick_unrivalled (alone : Unrivalled templates template) : pick? templates = some template := by
  obtain ⟨best, picked, foremost⟩ := pick_foremost (List.ne_nil_of_mem alone.inside)
  have greatest := foremost.greatest template alone.inside
  rw [picked, alone.eq_of_le foremost.mem greatest]

theorem listed_first (alone : Unrivalled templates template) :
    ∃ rest, templates.mergeSort listedBefore = template :: rest := by
  have listed := alone.perm (List.mergeSort_perm templates listedBefore)
  have sorted := List.pairwise_mergeSort listed_before_trans listed_before_total templates
  cases same : templates.mergeSort listedBefore with
  | nil =>
      rw [same] at listed
      exact absurd listed.inside List.not_mem_nil
  | cons first rest =>
      rw [same] at listed sorted
      refine ⟨rest, ?_⟩
      rcases List.mem_cons.mp listed.inside with front | behind
      · rw [front]
      · have before := (List.pairwise_cons.mp sorted).1 template behind
        rw [listed_before_iff] at before
        rw [listed.eq_of_le List.mem_cons_self before]

end Listing

end StoredTemplate

namespace Dispatcher

open StoredTemplate

section Select

variable (dispatcher : Dispatcher) (notice : Notice) (office : Office)

theorem select_failed (failed : office.templatesFail = true) :
    (dispatcher.select notice office).1 = .error (.templateLookup Office.outage) := by
  simp only [select, Services.findActive, Office.findActive, failed, if_true, Selected.choose]

theorem find_active_listed (readable : office.templatesFail = false) :
    (office.findActive notice.tenant notice.kind).1 =
      .ok (activeFor notice.tenant notice.kind office.templates) := by
  simp only [Office.findActive, readable, Bool.false_eq_true, if_false]

theorem select_listed (readable : office.templatesFail = false) :
    (dispatcher.select notice office).1 =
      Selected.choose dispatcher.registry notice.tenant notice.kind
        (.ok (activeFor notice.tenant notice.kind office.templates)) := by
  rw [← find_active_listed notice office readable]
  rfl

theorem select_unrivalled {template : StoredTemplate} (readable : office.templatesFail = false)
    (alone : Unrivalled (office.templates.filter (offers notice.tenant notice.kind)) template) :
    (dispatcher.select notice office).1 = .ok (.stored template) := by
  have listed := alone.perm (List.mergeSort_perm _ listedBefore)
  rw [select_listed dispatcher notice office readable, Selected.choose, activeFor, pick_unrivalled listed]

end Select

/-- A notice is made from the active template of its tenant and kind that is the greatest by default flag and time of
change, of several such from the one stored last. Without any it is made from the program's own for the kind, if there
is one; a store that cannot be read is an error whatever the program has. A template that is the greatest alone is
also the first that is listed, and is chosen in whatever order the templates were stored or are listed. -/
theorem template_chosen (dispatcher : Dispatcher) (notice : Notice) (office : Office) :
    let active := office.templates.filter (offers notice.tenant notice.kind)
    let chosen := (dispatcher.select notice office).1
    (office.templatesFail = true → chosen = .error (.templateLookup Office.outage)) ∧
      (office.templatesFail = false →
        (active ≠ [] → ∃ template, Foremost rank active template ∧ chosen = .ok (.stored template)) ∧
          (active = [] → chosen = match dispatcher.registry notice.kind with
            | some template => .ok (.builtin template)
            | none => .error (.templateNotFound notice.tenant notice.kind)) ∧
          ∀ template, Unrivalled active template →
            chosen = .ok (.stored template) ∧
              (∃ rest, (office.findActive notice.tenant notice.kind).1 = .ok (template :: rest)) ∧
              ∀ other : Office, other.templatesFail = false →
                List.Perm other.templates office.templates →
                (dispatcher.select notice other).1 = chosen) ∧
      ∀ templates others template, Unrivalled templates template → List.Perm others templates →
        pick? templates = some template ∧ pick? others = some template := by
  intro active chosen
  refine ⟨dispatcher.select_failed notice office, ?readable, ?picked⟩
  case readable =>
    intro readable
    have answer := dispatcher.select_listed notice office readable
    refine ⟨?stored, ?none_stored, ?alone⟩
    case stored =>
      intro stored
      have listed : activeFor notice.tenant notice.kind office.templates ≠ [] := by
        intro nothing
        have perm := List.mergeSort_perm active listedBefore
        rw [show active.mergeSort listedBefore = [] from nothing] at perm
        exact stored (List.nil_perm.mp perm)
      obtain ⟨best, picked, foremost⟩ := pick_foremost listed
      refine ⟨best, foremost_of_listed foremost, ?_⟩
      rw [show chosen = _ from answer, Selected.choose, picked]
    case none_stored =>
      intro nothing
      have listed : activeFor notice.tenant notice.kind office.templates = [] := by
        rw [activeFor, show office.templates.filter _ = [] from nothing, List.mergeSort_nil]
      rw [show chosen = _ from answer, listed]
      rfl
    case alone =>
      intro template alone
      have chosen_alone := dispatcher.select_unrivalled notice office readable alone
      obtain ⟨rest, first⟩ := listed_first alone
      refine ⟨chosen_alone, ⟨rest, ?_⟩, ?_⟩
      · rw [find_active_listed notice office readable, activeFor, first]
      · intro other also perm
        have alone_there := alone.perm (perm.filter (offers notice.tenant notice.kind))
        rw [dispatcher.select_unrivalled notice other also alone_there]
        exact chosen_alone.symm
  case picked =>
    intro templates others template alone perm
    exact ⟨pick_unrivalled alone, pick_unrivalled (alone.perm perm)⟩

theorem template_chosen_by_nanos :
    let stored (id tenant : Nat) (isDefault : Bool) (updatedAt : Instant) : StoredTemplate :=
      ⟨.ofNat id, .ofNat tenant, .welcome, "Hello", "", .classic, true, isDefault, .initial, updatedAt⟩
    let early := stored 1 7 true ⟨100, 5⟩
    let late := stored 2 7 true ⟨100, 9⟩
    let plain := stored 3 7 false ⟨300, 0⟩
    let foreign := stored 4 8 true ⟨900, 0⟩
    let notice : Notice := ⟨.ofNat 7, .welcome⟩
    let office := { Office.empty with templates := [early, late, plain, foreign] }
    let other := { Office.empty with templates := [foreign, plain, late, early] }
    (standard.select notice office).1 = .ok (.stored late) ∧
      (standard.select notice other).1 = .ok (.stored late) ∧
      pick? [plain, late, early] = some late := by
  intro stored early late plain foreign notice office other
  have alone : Unrivalled [early, late, plain] late := unrivalled_iff.mpr (by decide)
  obtain ⟨_, readable, picked⟩ := template_chosen standard notice office
  obtain ⟨chosen, _, same⟩ := (readable rfl).2.2 late alone
  have back : List.Perm other.templates office.templates := List.reverse_perm office.templates
  have reversed : List.Perm [plain, late, early] [early, late, plain] :=
    List.reverse_perm [early, late, plain]
  exact ⟨chosen, (same other rfl back).trans chosen, (picked _ _ late alone reversed).2⟩

end Dispatcher

end SchoolNotice
