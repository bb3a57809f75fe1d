import SchoolNotice.Notice.Builtin
import SchoolNotice.Proofs.Template.Braces

/-!
# The templates that come with the program

They are printed from nodes that can be read back and have text between their slots. So their tags all
have a meaning, their blocks are closed, and filled from data without doubled braces they have none.
-/

namespace SchoolNotice

open SchoolNotice.Text SchoolNotice.Template

namespace Builtin

theorem subject_printable (kind : Kind) : ∀ node ∈ always (subjectOf kind), node.Printable := by
  cases kind <;> decide +kernel

theorem subject_spaced (kind : Kind) : Node.spaced true (always (subjectOf kind)) = true := by
  cases kind <;> rfl

theorem body_printable {kind : Kind} {body : List Node} (found : bodyOf? kind = some body) :
    ∀ node ∈ body, node.Printable := by
  cases kind <;> cases found <;> decide +kernel

theorem body_spaced {kind : Kind} {body : List Node} (found : bodyOf? kind = some body) :
    Node.spaced true body = true := by
  cases kind <;> cases found <;> rfl

end Builtin

theorem standard_eq_some {kind : Kind} {builtin : Builtin}
    (registered : Registry.standard kind = some builtin) :
    ∃ body, Builtin.bodyOf? kind = some body ∧
      builtin.subject.toList = write (Builtin.always (Builtin.subjectOf kind)) ∧
      builtin.body.toList = write body := by
  obtain ⟨body, found, rfl⟩ := Option.map_eq_some_iff.mp registered
  exact ⟨body, found, String.toList_ofList, String.toList_ofList⟩

theorem pattern_writes_no_tag {nodes : List Node} (printable : ∀ node ∈ nodes, node.Printable)
    (spaced : Node.spaced true nodes = true) {pattern : String} (same : pattern.toList = write nodes) :
    WellFormed pattern.toList ∧ ∀ context : Context, SingleBraced context →
      ¬ ['{', '{'] <:+: render context pattern.toList := by
  rw [same]
  refine ⟨well_formed_write printable, ?_⟩
  intro context single
  exact single_braced_render printable spaced single

/-- In the patterns of a template of the program every brace stands in a tag with a meaning and every
opener has its own close. Filled from data none of whose texts has a doubled brace, they have none,
whatever blocks are kept and whatever the values are. -/
theorem standard_writes_no_tag {kind : Kind} {builtin : Builtin}
    (registered : Registry.standard kind = some builtin) :
    ∀ pattern ∈ [builtin.subject, builtin.body], WellFormed pattern.toList ∧
      ∀ context : Context, SingleBraced context →
        ¬ ['{', '{'] <:+: render context pattern.toList := by
  obtain ⟨body, found, subjectText, bodyText⟩ := standard_eq_some registered
  intro pattern member
  rcases List.mem_pair.mp member with rfl | rfl
  · exact pattern_writes_no_tag (Builtin.subject_printable kind) (Builtin.subject_spaced kind)
      subjectText
  · exact pattern_writes_no_tag (Builtin.body_printable found) (Builtin.body_spaced found) bodyText

/-- Values that end in a brace or begin with one, and nested data printed as it is. -/
def bracedContext : Context :=
  ⟨[("absence", .object [("date", .string "\x7b"), ("period", .array [.object [("\x7b", .object [])]])]),
    ("school", .object [("phone", .string "\x7b1\x7b")]),
    ("student", .object [("name", .string "Mia \x7b"), ("photo", .string "/uploads/\x7b.png")])]⟩

theorem standard_writes_no_tag_absence :
    ∃ builtin, Registry.standard .absenceAlert = some builtin ∧ SingleBraced bracedContext ∧
      ¬ ['{', '{'] <:+: render bracedContext builtin.body.toList := by
  have single : SingleBraced bracedContext := by
    simp only [SingleBraced, bracedContext, Context.toJson, Json.AllTexts, Json.AllTextsMembers,
      Json.AllTextsItems, Json.SingleBraced]
    decide +kernel
  refine ⟨_, rfl, single, ?_⟩
  exact (@standard_writes_no_tag .absenceAlert _ rfl _ (by simp)).2 bracedContext single

end SchoolNotice
