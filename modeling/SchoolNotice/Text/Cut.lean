/-!
Cutting text: at one separating character, and at a doubled character such as the `||` between
candidates or the braces around a tag.
-/

namespace SchoolNotice.Text

/-- The pieces between the separators; there is always at least one. -/
def split (separator : Char) : List Char → List (List Char)
  | [] => [[]]
  | char :: rest =>
      if char = separator then [] :: split separator rest
      else
        match split separator rest with
        | [] => [[char]]
        | piece :: pieces => (char :: piece) :: pieces

/-- The parts before and after the first place where `mark` stands twice in a row. -/
def cutDouble (mark : Char) : List Char → Option (List Char × List Char)
  | [] => none
  | [_] => none
  | char :: next :: rest =>
      if char = mark ∧ next = mark then some ([], rest)
      else (cutDouble mark (next :: rest)).map fun (before, after) => (char :: before, after)

/-- The pieces between doubled marks, taken from the left; there is always at least one. -/
def splitDouble (mark : Char) : List Char → List (List Char)
  | [] => [[]]
  | [char] => [[char]]
  | char :: next :: rest =>
      if char = mark ∧ next = mark then [] :: splitDouble mark rest
      else
        match splitDouble mark (next :: rest) with
        | [] => [[char]]
        | piece :: pieces => (char :: piece) :: pieces

/-- The parts before and after the last character with the property, and that character. -/
def cutLast (property : Char → Bool) (text : List Char) : Option (List Char × Char × List Char) :=
  let reversed := text.reverse
  match reversed.dropWhile (fun char => !property char) with
  | [] => none
  | char :: before =>
      some (before.reverse, char, (reversed.takeWhile (fun char => !property char)).reverse)

def dropStart (start text : List Char) : Option (List Char) :=
  match start, text with
  | [], text => some text
  | _ :: _, [] => none
  | expected :: start, char :: text => if char = expected then dropStart start text else none

/-- The last `count` characters of the text, or all of it if it is shorter. -/
def tail (count : Nat) (text : List Char) : List Char := text.drop (text.length - count)

theorem drop_start_eq {start text rest : List Char} (dropped : dropStart start text = some rest) :
    text = start ++ rest := by
  fun_induction dropStart start text with
  | case1 => simpa using dropped
  | case2 => simp at dropped
  | case3 start expected text induction => simp [induction dropped]
  | case4 => simp at dropped

theorem cut_double_eq {mark : Char} {text before after : List Char}
    (cut : cutDouble mark text = some (before, after)) :
    text = before ++ mark :: mark :: after := by
  fun_induction cutDouble mark text generalizing before with
  | case1 => simp at cut
  | case2 => simp at cut
  | case3 char next rest both =>
      obtain ⟨rfl, rfl⟩ := both
      simp only [Option.some.injEq, Prod.mk.injEq] at cut
      obtain ⟨rfl, rfl⟩ := cut
      rfl
  | case4 char next rest _ induction =>
      simp only [Option.map_eq_some_iff, Prod.exists, Prod.mk.injEq] at cut
      obtain ⟨inner, outer, found, rfl, rfl⟩ := cut
      simp [induction found]

theorem cut_last_eq {property : Char → Bool} {text before after : List Char} {char : Char}
    (cut : cutLast property text = some (before, char, after)) :
    text = before ++ char :: after := by
  unfold cutLast at cut
  simp only at cut
  split at cut
  · simp at cut
  · rename_i found rest dropped
    simp only [Option.some.injEq, Prod.mk.injEq] at cut
    obtain ⟨rfl, rfl, rfl⟩ := cut
    have whole := List.takeWhile_append_dropWhile (p := fun c => !property c) (l := text.reverse)
    rw [dropped] at whole
    have back := congrArg List.reverse whole
    simpa using back.symm

end SchoolNotice.Text
