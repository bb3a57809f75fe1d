import SchoolNotice.Delivery.Run
import SchoolNotice.Proofs.Delivery.Steady

/-!
An office under watch. Beside the office a watch knows how many mails are under way, and it notices when the
deliveries are cancelled while one is. What is delivered goes on as in the office itself.
-/

namespace SchoolNotice

structure Watch where
  office : Office
  /-- How many mails were handed over and have no reply. -/
  underway : Nat
  /-- Deliveries were cancelled while a mail was under way. -/
  disturbed : Bool

namespace Watch

def ofOffice (office : Office) : Watch := { office := office, underway := 0, disturbed := false }

def became (watch : Watch) (office : Office) : Watch :=
  { watch with
    office := office
    disturbed := watch.disturbed ||
      (watch.underway != 0 && !watch.office.cancelled && office.cancelled) }

/-- A mail is handed over, and it counts as under way until it has a reply. -/
def post (email : Email) (watch : Watch) : Option Reply × Watch :=
  let (answer, office) := watch.office.post email
  let handed := { watch with underway := watch.underway + 1 }.became office
  match answer with
  | none => (none, handed)
  | some reply => (some reply, { handed with underway := watch.underway })

def collect (email : Email) (watch : Watch) : Reply × Watch :=
  let (reply, office) := watch.office.collect email
  (reply, { watch.became office with underway := watch.underway - 1 })

instance : Services Watch where
  cancelled watch := watch.office.cancelled
  note event watch := { watch with office := watch.office.note event }
  now watch := watch.office.clock
  findProfile tenant watch :=
    let (answer, office) := watch.office.findProfile tenant
    (answer, watch.became office)
  findActive tenant kind watch :=
    let (answer, office) := watch.office.findActive tenant kind
    (answer, watch.became office)
  post := post
  collect := collect
  insertLog entry watch :=
    let (answer, office) := watch.office.insertLog entry
    (answer, watch.became office)
  wait watch := watch.became watch.office.wait

def Over (watch : Watch) (office : Office) : Prop := watch.office = office

theorem over_answers (notice : Notice) : AnswersAlike notice Over where
  note := by
    rintro event watch _ rfl
    rfl
  findProfile := by
    rintro watch _ rfl
    exact ⟨rfl, rfl⟩
  findActive := by
    rintro watch _ rfl
    exact ⟨rfl, rfl⟩
  cancelled := by
    rintro watch _ rfl
    rfl
  now := by
    rintro watch _ rfl
    rfl
  post := by
    rintro email watch _ rfl
    simp only [Services.post, post]
    rcases watch.office.post email with ⟨_ | reply, next⟩
    · exact ⟨rfl, rfl⟩
    · exact ⟨rfl, rfl⟩
  collect := by
    rintro email watch _ rfl
    exact ⟨rfl, rfl⟩
  wait := by
    rintro watch _ rfl
    rfl
  insertLog := by
    rintro entry _ watch _ rfl
    exact ⟨rfl, rfl⟩

theorem dispatch_over (dispatcher : Dispatcher) (notice : Notice) (recipient : Recipient)
    (office : Office) :
    (dispatcher.dispatch notice recipient (ofOffice office)).2.office =
      (dispatcher.dispatch notice recipient office).2 := by
  have watched : (ofOffice office).Over office := rfl
  exact (Dispatcher.dispatch_parallel (over_answers notice).goes dispatcher recipient watched).2

theorem batch_over (dispatcher : Dispatcher) (notice : Notice) (recipients : List Recipient)
    (office : Office) :
    (dispatcher.batch notice recipients (ofOffice office)).2.office =
      (dispatcher.batch notice recipients office).2 := by
  have watched : (ofOffice office).Over office := rfl
  exact (Dispatcher.batch_parallel (over_answers notice).goes dispatcher recipients watched).2

theorem became_disturbed {watch : Watch} (disturbed : watch.disturbed = true) (office : Office) :
    (watch.became office).disturbed = true := by
  rw [became, disturbed, Bool.true_or]

theorem post_disturbed {watch : Watch} (disturbed : watch.disturbed = true) (email : Email) :
    (watch.post email).2.disturbed = true := by
  have handed : { watch with underway := watch.underway + 1 }.disturbed = true := disturbed
  unfold post
  rcases watch.office.post email with ⟨_ | reply, next⟩
  · exact became_disturbed handed next
  · exact became_disturbed handed next

theorem disturbed_outlasts : Outlasts fun watch : Watch => watch.disturbed = true :=
  { note := fun _ _ disturbed => disturbed
    findProfile := fun _ _ disturbed => became_disturbed disturbed _
    findActive := fun _ _ _ disturbed => became_disturbed disturbed _
    post := fun email _ disturbed => post_disturbed disturbed email
    collect := fun _ _ disturbed => became_disturbed disturbed _
    insertLog := fun _ _ disturbed => became_disturbed disturbed _
    wait := fun disturbed => became_disturbed disturbed _ }

structure Steady (stopped : Bool) (watch : Watch) : Prop where
  office : watch.office.Steady stopped
  undisturbed : watch.disturbed = false

theorem became_steady {stopped : Bool} {watch : Watch} (steady : watch.Steady stopped)
    {office : Office} (still : office.Steady stopped) : (watch.became office).Steady stopped := by
  refine ⟨still, ?_⟩
  rw [became, steady.undisturbed, steady.office.cancelled, still.cancelled]
  cases stopped with
  | false => exact Bool.and_false _
  | true => rw [Bool.not_true, Bool.and_false]; rfl

theorem post_steady {stopped : Bool} {watch : Watch} (steady : watch.Steady stopped)
    (email : Email) : (watch.post email).2.Steady stopped := by
  have handed : Steady stopped { watch with underway := watch.underway + 1 } :=
    ⟨steady.office, steady.undisturbed⟩
  have still := Office.steady_post steady.office email
  unfold post
  rcases posted : watch.office.post email with ⟨_ | reply, next⟩
  · rw [posted] at still
    exact became_steady handed still
  · rw [posted] at still
    have became := became_steady handed still
    exact ⟨became.office, became.undisturbed⟩

theorem collect_steady {stopped : Bool} {watch : Watch} (steady : watch.Steady stopped)
    (email : Email) : (watch.collect email).2.Steady stopped := by
  have became := became_steady steady (Office.steady_collect steady.office email)
  exact ⟨became.office, became.undisturbed⟩

theorem steady_outlasts (stopped : Bool) : Outlasts (Watch.Steady stopped) :=
  { note := fun event _ steady => ⟨Office.steady_note steady.office event, steady.undisturbed⟩
    findProfile := fun tenant _ steady =>
      became_steady steady ((Office.steady_outlasts stopped).findProfile tenant steady.office)
    findActive := fun tenant kind _ steady =>
      became_steady steady ((Office.steady_outlasts stopped).findActive tenant kind steady.office)
    post := fun email _ steady => post_steady steady email
    collect := fun email _ steady => collect_steady steady email
    insertLog := fun entry _ steady =>
      became_steady steady (Office.steady_insert_log steady.office entry)
    wait := fun steady => became_steady steady (Office.steady_wait steady.office) }

end Watch

end SchoolNotice
