import SchoolNotice.Template.Tag

/-!
Cutting a template into tokens. The cursor jumps from one doubled opening brace to the first doubled
closing brace behind it. If the text between holds a brace, the cursor goes on at the last opener
that this close can belong to, or at the close itself; no tag can begin in between.
-/

namespace SchoolNotice.Template

open SchoolNotice.Text

/-- Puts text before the tokens, into the text they begin with if there is one. -/
def consText (source : List Char) (tokens : List Token) : List Token :=
  match source, tokens with
  | [], tokens => tokens
  | source, .text next :: rest => .text (source ++ next) :: rest
  | source, tokens => .text source :: tokens

/-- What comes next in a template: the text before it, and then a tag, a place to go on from, or
nothing. -/
inductive Stop where
  | tag (before : List Char) (token : Token) (rest : List Char)
  | skip (before rest : List Char)
  | finish

def nextStop (input : List Char) : Stop :=
  match cutDouble '{' input with
  | none => .finish
  | some (before, after) =>
      match cutDouble '}' after with
      | none => .finish
      | some (inner, rest) =>
          match cutLast isBrace inner with
          | some (left, brace, right) =>
              if brace = '{' ∧ left.getLast?.getD '{' = '{' then
                .skip (before ++ ('{' :: '{' :: left).dropLast)
                  ('{' :: '{' :: (right ++ '}' :: '}' :: rest))
              else .skip (before ++ '{' :: '{' :: inner) ('}' :: '}' :: rest)
          | none =>
              match classify inner with
              | some token => .tag before token rest
              | none => .skip (before ++ enclose inner) rest

theorem length_of_tag {input before rest : List Char} {token : Token}
    (stop : nextStop input = .tag before token rest) : rest.length < input.length := by
  unfold nextStop at stop
  split at stop
  · simp at stop
  · rename_i found
    split at stop
    · simp at stop
    · rename_i closed
      have whole := cut_double_eq found
      have inside := cut_double_eq closed
      split at stop
      · split at stop <;> simp at stop
      · split at stop
        · simp only [Stop.tag.injEq] at stop
          obtain ⟨rfl, rfl, rfl⟩ := stop
          simp [whole, inside]
          omega
        · simp at stop

theorem length_of_skip {input before rest : List Char}
    (stop : nextStop input = .skip before rest) : rest.length < input.length := by
  unfold nextStop at stop
  split at stop
  · simp at stop
  · rename_i found
    split at stop
    · simp at stop
    · rename_i closed
      have whole := cut_double_eq found
      have inside := cut_double_eq closed
      split at stop
      · rename_i last
        have parts := cut_last_eq last
        split at stop
        · simp only [Stop.skip.injEq] at stop
          obtain ⟨_, rfl⟩ := stop
          simp [whole, inside, parts]
          omega
        · simp only [Stop.skip.injEq] at stop
          obtain ⟨_, rfl⟩ := stop
          simp [whole, inside]
          omega
      · split at stop
        · simp at stop
        · simp only [Stop.skip.injEq] at stop
          obtain ⟨_, rfl⟩ := stop
          simp [whole, inside]
          omega

def tokens (input : List Char) : List Token :=
  match _ : nextStop input with
  | .finish => consText input []
  | .skip before rest => consText before (tokens rest)
  | .tag before token rest => consText before (token :: tokens rest)
termination_by input.length
decreasing_by
  · exact length_of_skip (by assumption)
  · exact length_of_tag (by assumption)

end SchoolNotice.Template
