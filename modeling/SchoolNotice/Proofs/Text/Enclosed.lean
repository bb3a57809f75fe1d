import SchoolNotice.Text.Cut

/-!
What stands between two marks in a text, each taken where it comes first.
-/

namespace SchoolNotice.Text

def cutAt? (mark : List Char) : List Char → Option (List Char × List Char)
  | [] => (dropStart mark []).map fun after => ([], after)
  | char :: rest =>
      match dropStart mark (char :: rest) with
      | some after => some ([], after)
      | none => (cutAt? mark rest).map fun (before, after) => (char :: before, after)

theorem drop_start_append {start text after : List Char} (dropped : dropStart start text = some after)
    (rest : List Char) : dropStart start (text ++ rest) = some (after ++ rest) := by
  fun_induction dropStart start text with
  | case1 text =>
      cases dropped
      rfl
  | case2 => cases dropped
  | case3 start expected text induction =>
      rw [List.cons_append, dropStart, if_pos rfl]
      exact induction dropped
  | case4 => cases dropped

theorem drop_start_append_eq_none {start text : List Char} (missing : dropStart start text = none)
    (long : start.length ≤ text.length) (rest : List Char) :
    dropStart start (text ++ rest) = none := by
  fun_induction dropStart start text with
  | case1 => cases missing
  | case2 => simp at long
  | case3 start expected text induction =>
      rw [List.cons_append, dropStart, if_pos rfl]
      exact induction missing (Nat.le_of_succ_le_succ long)
  | case4 expected start char text apart => rw [List.cons_append, dropStart, if_neg apart]

theorem drop_start_self (start : List Char) : dropStart start start = some [] := by
  induction start with
  | nil => rfl
  | cons char start induction => rwa [dropStart, if_pos rfl]

theorem length_of_cut_at {mark text before after : List Char}
    (cut : cutAt? mark text = some (before, after)) : mark.length ≤ text.length := by
  fun_induction cutAt? mark text generalizing before after with
  | case1 =>
      obtain ⟨rest, dropped, _⟩ := Option.map_eq_some_iff.mp cut
      rw [drop_start_eq dropped, List.length_append]
      exact Nat.le_add_right mark.length rest.length
  | case2 char rest behind dropped =>
      rw [drop_start_eq dropped, List.length_append]
      exact Nat.le_add_right mark.length behind.length
  | case3 char rest missing induction =>
      obtain ⟨⟨inner, behind⟩, found, _⟩ := Option.map_eq_some_iff.mp cut
      exact Nat.le_succ_of_le (induction found)

theorem cut_at_self (mark rest : List Char) : cutAt? mark (mark ++ rest) = some ([], rest) := by
  have dropped := drop_start_append (drop_start_self mark) rest
  rw [List.nil_append] at dropped
  unfold cutAt?
  split
  · next empty =>
    rw [← empty, dropped]
    rfl
  · next char behind same => rw [← same, dropped]

/-- What is added at the end of a text does not move the first place of a mark. -/
theorem cut_at_append {mark text before after : List Char}
    (cut : cutAt? mark text = some (before, after)) (rest : List Char) :
    cutAt? mark (text ++ rest) = some (before, after ++ rest) := by
  fun_induction cutAt? mark text generalizing before after with
  | case1 =>
      obtain ⟨behind, dropped, same⟩ := Option.map_eq_some_iff.mp cut
      cases same
      have parts := drop_start_eq dropped
      obtain ⟨rfl, rfl⟩ := List.append_eq_nil_iff.mp parts.symm
      exact cut_at_self [] rest
  | case2 char text behind dropped =>
      cases cut
      rw [List.cons_append, cutAt?, ← List.cons_append, drop_start_append dropped rest]
  | case3 char text missing induction =>
      obtain ⟨⟨inner, behind⟩, found, same⟩ := Option.map_eq_some_iff.mp cut
      cases same
      have long := Nat.le_succ_of_le (length_of_cut_at found)
      have still := drop_start_append_eq_none missing long rest
      rw [List.cons_append, cutAt?, ← List.cons_append, still, induction found]
      rfl

/-- A mark whose first character is not before it is found where it stands. -/
theorem cut_at_fresh {first : Char} {before : List Char} (fresh : first ∉ before)
    (mark rest : List Char) :
    cutAt? (first :: mark) (before ++ (first :: mark ++ rest)) = some (before, rest) := by
  induction before with
  | nil => exact cut_at_self (first :: mark) rest
  | cons char before induction =>
      have apart : char ≠ first := fun same => fresh (same ▸ List.mem_cons_self)
      have missing := induction fun inside => fresh (List.mem_cons_of_mem char inside)
      rw [List.cons_append, cutAt?, dropStart, if_neg apart, missing]
      rfl

def between? (opening closing text : List Char) : Option (List Char) :=
  (cutAt? opening text).bind fun (_, behind) => (cutAt? closing behind).map Prod.fst

end SchoolNotice.Text
