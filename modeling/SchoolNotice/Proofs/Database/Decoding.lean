import Mathlib.Data.List.Forall2
import SchoolNotice.Proofs.Delivery.Parallel
import SchoolNotice.Worker.Desk

/-!
# Templates from rows

A row stands for a template if it has the name of a kind and a version from one on. The rows of an answer
are read all or not at all: the first one that stands for none ends the reading, and with it whatever was
to be chosen or delivered from the templates.
-/

namespace SchoolNotice

theorem Kind.of_name_eq_some {name : String} {kind : Kind} :
    Kind.ofName? name = some kind ↔ name = kind.name := by
  constructor
  · intro found
    have same := List.find?_some (p := fun kind : Kind => kind.name == name) found
    exact (beq_iff_eq.mp same).symm
  · rintro rfl
    exact kind.of_name_name

theorem Kind.of_name_eq_none {name : String} :
    Kind.ofName? name = none ↔ ∀ kind : Kind, name ≠ kind.name := by
  rw [Option.eq_none_iff_forall_ne_some]
  simp only [ne_eq, Kind.of_name_eq_some]

theorem Theme.of_name_eq_some {name : String} {theme : Theme} :
    Theme.ofName? name = some theme ↔ name = theme.name := by
  constructor
  · intro found
    have same := List.find?_some (p := fun theme : Theme => theme.name == name) found
    exact (beq_iff_eq.mp same).symm
  · rintro rfl
    cases theme <;> decide

section Versions

variable {number : Int} {version : Version}

theorem Version.of_int_eq_ok : Version.ofInt number = .ok version ↔ number = version.number := by
  obtain ⟨value, positive⟩ := version
  unfold Version.ofInt Version.ofNat
  split_ifs with below above
  · simp only [false_iff]
    omega
  · simp only [Except.ok.injEq, mk.injEq]
    omega
  · simp only [false_iff]
    omega

theorem Version.of_int_eq_error {error : ValidationError} :
    Version.ofInt number = .error error ↔
      number < 0 ∧ error = .versionNegative number ∨ number = 0 ∧ error = .versionZero := by
  unfold Version.ofInt Version.ofNat
  split_ifs with below above
  · have apart : number ≠ 0 := by omega
    simp [below, apart, eq_comm]
  · have apart : number ≠ 0 := by omega
    simp [below, apart]
  · have zero : number = 0 := by omega
    simp [zero, eq_comm]

end Versions

namespace Database

namespace TemplateRow

/-! ## One row -/

section Rows

variable {row : TemplateRow} {template : StoredTemplate} {error : StoreError}

/-- The row has the name of a kind and a version from one on. -/
def Sound (row : TemplateRow) : Prop := (∃ kind : Kind, row.templateType = kind.name) ∧ 1 ≤ row.version

structure Stands (row : TemplateRow) (template : StoredTemplate) : Prop where
  id : template.id = row.id
  tenant : template.tenant = row.tenant
  kind : row.templateType = template.kind.name
  subject : template.subject = row.subject
  body : template.body = row.body
  theme : template.theme.name = Text.trimmed row.themeId ∨
    (∀ theme : Theme, theme.name ≠ Text.trimmed row.themeId) ∧ template.theme = .classic
  active : template.active = row.active
  isDefault : template.isDefault = row.isDefault
  version : row.version = template.version.number
  updatedAt : template.updatedAt = row.updatedAt

/-- What is wrong with a row. An unknown type comes before the version. -/
inductive Fault (row : TemplateRow) : StoreError → Prop where
  | unknownType (unknown : ∀ kind : Kind, row.templateType ≠ kind.name) :
      Fault row (unknownType row.templateType)
  | versionNegative {kind : Kind} (known : row.templateType = kind.name) (below : row.version < 0) :
      Fault row (.ofValidation (.versionNegative row.version))
  | versionZero {kind : Kind} (known : row.templateType = kind.name) (zero : row.version = 0) :
      Fault row (.ofValidation .versionZero)

theorem theme_of_stored {name : String} {theme : Theme} :
    Theme.ofStored name = theme ↔ theme.name = Text.trimmed name ∨
      (∀ other : Theme, other.name ≠ Text.trimmed name) ∧ theme = .classic := by
  unfold Theme.ofStored
  cases found : Theme.ofName? (Text.trimmed name) with
  | none =>
      have unknown : ∀ other : Theme, other.name ≠ Text.trimmed name := by
        intro other same
        rw [Theme.of_name_eq_some.mpr same.symm] at found
        cases found
      simp [unknown, eq_comm]
  | some known =>
      rw [Theme.of_name_eq_some] at found
      constructor
      · rintro rfl
        exact .inl found.symm
      · intro either
        rcases either with same | ⟨unknown, -⟩
        · have again := Theme.of_name_eq_some.mpr same.symm
          rw [Theme.of_name_eq_some.mpr found] at again
          exact Option.some.inj again
        · exact absurd found.symm (unknown known)

theorem decode_eq_ok : row.decode = .ok template ↔ row.Stands template := by
  unfold decode
  constructor
  · intro decoded
    split at decoded
    · cases decoded
    next kind known =>
      split at decoded
      · cases decoded
      next version numbered =>
        obtain rfl := Except.ok.inj decoded
        exact
          { id := rfl
            tenant := rfl
            kind := Kind.of_name_eq_some.mp known
            subject := rfl
            body := rfl
            theme := theme_of_stored.mp rfl
            active := rfl
            isDefault := rfl
            version := Version.of_int_eq_ok.mp numbered
            updatedAt := rfl }
  · intro stands
    have theme := theme_of_stored.mpr stands.theme
    rw [Kind.of_name_eq_some.mpr stands.kind, Version.of_int_eq_ok.mpr stands.version]
    simp only [theme, ← stands.id, ← stands.tenant, ← stands.subject, ← stands.body, ← stands.active,
      ← stands.isDefault, ← stands.updatedAt]

theorem decode_eq_error : row.decode = .error error ↔ row.Fault error := by
  unfold decode
  constructor
  · intro refused
    split at refused
    next unknown =>
      obtain rfl := Except.error.inj refused
      exact .unknownType (Kind.of_name_eq_none.mp unknown)
    next kind known =>
      have named := Kind.of_name_eq_some.mp known
      split at refused
      next fault unnumbered =>
        obtain rfl := Except.error.inj refused
        rcases Version.of_int_eq_error.mp unnumbered with ⟨below, rfl⟩ | ⟨zero, rfl⟩
        · exact .versionNegative named below
        · exact .versionZero named zero
      next => cases refused
  · intro fault
    cases fault with
    | unknownType unknown => rw [Kind.of_name_eq_none.mpr unknown]
    | versionNegative known below =>
        rw [Kind.of_name_eq_some.mpr known, Version.of_int_eq_error.mpr (.inl ⟨below, rfl⟩)]
    | versionZero known zero =>
        rw [Kind.of_name_eq_some.mpr known, Version.of_int_eq_error.mpr (.inr ⟨zero, rfl⟩)]

theorem Stands.sound (stands : row.Stands template) : row.Sound := by
  refine ⟨⟨template.kind, stands.kind⟩, ?_⟩
  have positive := template.version.positive
  rw [stands.version]
  omega

theorem Fault.unsound (fault : row.Fault error) : ¬ row.Sound := by
  rintro ⟨⟨kind, named⟩, positive⟩
  cases fault with
  | unknownType unknown => exact unknown kind named
  | versionNegative known below => omega
  | versionZero known zero => omega

theorem Fault.invalid_data (fault : row.Fault error) : ∃ text, error = .invalidData text := by
  cases fault <;> exact ⟨_, rfl⟩

theorem stands_or_faulty (row : TemplateRow) :
    (∃ template, row.Stands template) ∨ ∃ error, row.Fault error := by
  cases decoded : row.decode with
  | ok template => exact .inl ⟨template, decode_eq_ok.mp decoded⟩
  | error error => exact .inr ⟨error, decode_eq_error.mp decoded⟩

end Rows

/-! ## The rows of an answer -/

section Answers

variable {rows : List TemplateRow} {templates : List StoredTemplate} {error : StoreError}

def FirstFault (rows : List TemplateRow) (error : StoreError) : Prop :=
  ∃ before row after, rows = before ++ row :: after ∧ (∀ earlier ∈ before, earlier.Sound) ∧
    row.Fault error

theorem first_fault_cons {row : TemplateRow} :
    FirstFault (row :: rows) error ↔ row.Fault error ∨ row.Sound ∧ FirstFault rows error := by
  constructor
  · rintro ⟨before, bad, after, whole, sound, fault⟩
    cases before with
    | nil =>
        obtain ⟨rfl, -⟩ := List.cons.inj whole
        exact .inl fault
    | cons first before =>
        obtain ⟨rfl, behind⟩ := List.cons.inj whole
        obtain ⟨here, others⟩ := List.forall_mem_cons.mp sound
        exact .inr ⟨here, before, bad, after, behind, others, fault⟩
  · rintro (fault | ⟨here, before, bad, after, behind, sound, fault⟩)
    · exact ⟨[], row, rows, rfl, List.forall_mem_nil _, fault⟩
    · refine ⟨row :: before, bad, after, by rw [behind, List.cons_append], ?_, fault⟩
      exact List.forall_mem_cons.mpr ⟨here, sound⟩

theorem FirstFault.invalid_data (first : FirstFault rows error) : ∃ text, error = .invalidData text := by
  obtain ⟨_, row, _, _, _, fault⟩ := first
  exact fault.invalid_data

theorem decode_all_eq_ok :
    decodeAll rows = .ok templates ↔ List.Forall₂ Stands rows templates := by
  induction rows generalizing templates with
  | nil =>
      rw [decodeAll, List.forall₂_nil_left_iff, Except.ok.injEq]
      exact eq_comm
  | cons row rest induction =>
      rw [decodeAll, List.forall₂_cons_left_iff]
      constructor
      · intro read
        split at read
        · cases read
        next template decoded =>
          split at read
          · cases read
          next others behind =>
            exact ⟨template, others, decode_eq_ok.mp decoded, induction.mp behind,
              (Except.ok.inj read).symm⟩
      · rintro ⟨template, others, stands, behind, rfl⟩
        rw [decode_eq_ok.mpr stands, induction.mpr behind]

theorem decode_all_eq_error : decodeAll rows = .error error ↔ FirstFault rows error := by
  induction rows with
  | nil =>
      rw [decodeAll]
      apply iff_of_false nofun
      rintro ⟨before, row, after, whole, -⟩
      simp at whole
  | cons row rest induction =>
      rw [decodeAll, first_fault_cons, ← induction]
      rcases stands_or_faulty row with ⟨template, stands⟩ | ⟨other, fault⟩
      · have noFault : ¬ row.Fault error := fun fault => fault.unsound stands.sound
        rw [decode_eq_ok.mpr stands]
        cases decodeAll rest with
        | error fault => simp [noFault, stands.sound]
        | ok templates => simp [noFault]
      · rw [← decode_eq_error, decode_eq_error.mpr fault]
        simp [fault.unsound]

theorem decoded_iff_sound : (∃ templates, decodeAll rows = .ok templates) ↔ ∀ row ∈ rows, row.Sound := by
  induction rows with
  | nil => exact iff_of_true ⟨[], rfl⟩ (List.forall_mem_nil _)
  | cons row rest induction =>
      rw [List.forall_mem_cons, ← induction]
      constructor
      · rintro ⟨templates, read⟩
        obtain ⟨template, others, stands, behind, -⟩ :=
          List.forall₂_cons_left_iff.mp (decode_all_eq_ok.mp read)
        exact ⟨stands.sound, others, decode_all_eq_ok.mpr behind⟩
      · rintro ⟨sound, others, behind⟩
        rcases stands_or_faulty row with ⟨template, stands⟩ | ⟨error, fault⟩
        · exact ⟨template :: others, decode_all_eq_ok.mpr (.cons stands (decode_all_eq_ok.mp behind))⟩
        · exact absurd sound fault.unsound

theorem first_fault_of_unsound {row : TemplateRow} (member : row ∈ rows) (unsound : ¬ row.Sound) :
    ∃ error, FirstFault rows error := by
  cases read : decodeAll rows with
  | ok templates => exact absurd (decoded_iff_sound.mp ⟨templates, read⟩ row member) unsound
  | error error => exact ⟨error, decode_all_eq_error.mp read⟩

end Answers

end TemplateRow

/-- A query that is answered is answered with what its rows are read as. -/
theorem Server.find_active_answered {server : Server} {tenant : Uuid} {kind : Kind}
    (answered : (server.carryOut (.findActive tenant kind)).1 = none) :
    (server.findActive tenant kind).1 = TemplateRow.decodeAll server.templateRows := by
  rw [Server.findActive]
  rcases carried : server.carryOut (.findActive tenant kind) with ⟨fault, sent⟩
  rw [carried] at answered
  rw [show fault = none from answered]

end Database

/-! ## What is chosen and delivered -/

namespace Desk

variable (dispatcher : Dispatcher) {desk : Desk} {notice : Notice} {error : StoreError}

structure Unmailed (desk after : Desk) : Prop where
  server : after.server = desk.server
  used : after.used = desk.used
  transmissions : after.transmissions = desk.transmissions
  entries : after.entries = desk.entries

theorem unmailed_outlasts_lookups (desk : Desk) : OutlastsLookups desk.Unmailed where
  note _ _ held := ⟨held.server, held.used, held.transmissions, held.entries⟩
  findProfile _ _ held := ⟨held.server, held.used, held.transmissions, held.entries⟩
  findActive _ _ _ held := ⟨held.server, held.used, held.transmissions, held.entries⟩

theorem select_unreadable (unreadable : (desk.server.findActive notice.tenant notice.kind).1 = .error error) :
    (dispatcher.select notice desk).1 = .error (.templateLookup error) := by
  have found : (Services.findActive notice.tenant notice.kind desk).1 = .error error := unreadable
  rw [Dispatcher.select]
  simp only [found, Selected.choose]

theorem enrich_completes (heed : Bool) (tenant : Uuid) (context : Context) (desk : Desk) :
    ∃ completed, (Dispatcher.enrich heed tenant context desk).1 = .ok completed := by
  have going : Services.cancelled desk = false := rfl
  unfold Dispatcher.enrich
  rw [going, Bool.and_false]
  split
  · exact ⟨_, rfl⟩
  · rcases Services.findProfile tenant desk with ⟨fault | _ | profile, next⟩ <;> exact ⟨_, rfl⟩

theorem compose_unreadable (heed : Bool) (context : Context)
    (unreadable : (desk.server.findActive notice.tenant notice.kind).1 = .error error) :
    (dispatcher.compose heed notice context desk).1 = .error (.templateLookup error) := by
  have going : Services.cancelled desk = false := rfl
  have selected := select_unreadable dispatcher unreadable
  unfold Dispatcher.compose
  rw [going, Bool.and_false]
  rcases answer : dispatcher.select notice desk with ⟨found, next⟩
  rw [answer] at selected
  rw [show found = _ from selected]
  rfl

theorem prepare_unreadable (heed : Bool) (context : Context)
    (unreadable : (desk.server.findActive notice.tenant notice.kind).1 = .error error) :
    (dispatcher.prepare heed notice context desk).1 = .error (.templateLookup error) := by
  obtain ⟨completed, enriched⟩ := enrich_completes heed notice.tenant context desk
  have kept := Dispatcher.enrich_keeps (unmailed_outlasts_lookups desk) heed context
    ⟨rfl, rfl, rfl, rfl⟩ notice.tenant
  unfold Dispatcher.prepare
  rcases answer : Dispatcher.enrich heed notice.tenant context desk with ⟨found, next⟩
  rw [answer] at enriched kept
  rw [show found = _ from enriched]
  apply compose_unreadable
  rwa [kept.server]

theorem preview_unreadable (context : Context)
    (unreadable : (desk.server.findActive notice.tenant notice.kind).1 = .error error) :
    (dispatcher.preview notice context desk).1 = .error (.templateLookup error) := by
  have prepared := prepare_unreadable dispatcher false context unreadable
  unfold Dispatcher.preview
  rcases answer : dispatcher.prepare false notice context desk with ⟨found, next⟩
  rw [answer] at prepared
  rw [show found = _ from prepared]

theorem dispatch_unreadable (recipient : Recipient)
    (unreadable : (desk.server.findActive notice.tenant notice.kind).1 = .error error) :
    (dispatcher.dispatch notice recipient desk).1 = .error (.templateLookup error) ∧
      desk.Unmailed (dispatcher.dispatch notice recipient desk).2 := by
  have failed := prepare_unreadable dispatcher true recipient.context unreadable
  have kept := Dispatcher.prepare_keeps (unmailed_outlasts_lookups desk) dispatcher true notice
    recipient.context ⟨rfl, rfl, rfl, rfl⟩
  unfold Dispatcher.dispatch Dispatcher.start
  rcases answer : dispatcher.prepare true notice recipient.context desk with ⟨found, next⟩
  rw [answer] at failed kept
  rw [show found = _ from failed]
  exact ⟨rfl, (unmailed_outlasts_lookups desk).note _ kept⟩

end Desk

open Database TemplateRow

/-- An answer of the database is read as one template for each row, in their order, if every row has the
name of a kind and a version from one on, and otherwise as the fault of the first row that has not. With
such a row nothing is chosen, shown or delivered, whatever templates the program has of its own. -/
theorem rows_all_or_nothing (server : Server) (tenant : Uuid) (kind : Kind)
    (answered : (server.carryOut (.findActive tenant kind)).1 = none) :
    (∀ templates, (server.findActive tenant kind).1 = .ok templates ↔
      List.Forall₂ Stands server.templateRows templates) ∧
    ((∃ templates, (server.findActive tenant kind).1 = .ok templates) ↔
      ∀ row ∈ server.templateRows, row.Sound) ∧
    (∀ error, (server.findActive tenant kind).1 = .error error ↔
      FirstFault server.templateRows error) ∧
    ∀ row ∈ server.templateRows, ¬ row.Sound →
      ∃ error, FirstFault server.templateRows error ∧ (∃ text, error = .invalidData text) ∧
        ∀ (dispatcher : Dispatcher) (desk : Desk), desk.server = server →
          (dispatcher.select ⟨tenant, kind⟩ desk).1 = .error (.templateLookup error) ∧
          (∀ context : Context,
            (dispatcher.preview ⟨tenant, kind⟩ context desk).1 = .error (.templateLookup error)) ∧
          ∀ recipient : Recipient,
            (dispatcher.dispatch ⟨tenant, kind⟩ recipient desk).1 = .error (.templateLookup error) ∧
              desk.Unmailed (dispatcher.dispatch ⟨tenant, kind⟩ recipient desk).2 := by
  have found := server.find_active_answered answered
  refine ⟨?_, ?_, ?_, ?_⟩
  · intro templates
    rw [found]
    exact decode_all_eq_ok
  · rw [found]
    exact decoded_iff_sound
  · intro error
    rw [found]
    exact decode_all_eq_error
  · intro row member unsound
    obtain ⟨error, fault⟩ := first_fault_of_unsound member unsound
    refine ⟨error, fault, fault.invalid_data, ?_⟩
    rintro dispatcher desk rfl
    have unreadable := found.trans (decode_all_eq_error.mpr fault)
    exact ⟨Desk.select_unreadable dispatcher unreadable,
      fun context => Desk.preview_unreadable dispatcher context unreadable,
      fun recipient => Desk.dispatch_unreadable dispatcher recipient unreadable⟩

def welcomeRow (templateType : String) (version : Int) : TemplateRow :=
  { id := default, tenant := default, templateType, subject := "Hello", body := "Welcome!"
    themeId := " modern ", active := true, isDefault := true, version, updatedAt := default }

/-- A sound row, one with two faults, and one with one. -/
def mixedRows : Server :=
  { tenantRows := [], templateRows := [welcomeRow "welcome" 3, welcomeRow "Welcome" 0, welcomeRow "welcome" (-1)]
    refuses := fun _ => false, refusal := "", refusesLogin := false }

/-- The welcome template of the program is not used, and of two faults the type is the one that is told. -/
theorem rows_all_or_nothing_mixed :
    (mixedRows.carryOut (.findActive default .welcome)).1 = none ∧
      (Dispatcher.standard.registry .welcome).isSome = true ∧
      ∀ desk : Desk, desk.server = mixedRows →
        (Dispatcher.standard.select ⟨default, .welcome⟩ desk).1 =
          .error (.templateLookup (unknownType "Welcome")) := by
  refine ⟨rfl, rfl, ?_⟩
  obtain ⟨-, -, faults, unreadable⟩ := rows_all_or_nothing mixedRows default .welcome rfl
  have unsound : ¬ (welcomeRow "welcome" (-1)).Sound := by
    rintro ⟨-, positive⟩
    revert positive
    decide
  obtain ⟨error, first, -, ends⟩ := unreadable _ (by simp [mixedRows]) unsound
  have told : (mixedRows.findActive default .welcome).1 = .error (unknownType "Welcome") := by
    decide +kernel
  rw [(faults error).mpr first] at told
  rw [← Except.error.inj told]
  exact fun desk same => (ends .standard desk same).1

end SchoolNotice
