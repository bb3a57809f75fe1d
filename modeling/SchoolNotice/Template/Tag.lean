import SchoolNotice.Text.Blank
import SchoolNotice.Text.Cut

/-!
Tags of the template language and what they mean. A tag is a text without braces between two
doubled braces. It opens a block (`#if path`), closes one (`/if`) or is a placeholder: a chain of
candidates, each a path or a quoted literal. Any other text between the braces is no tag.
-/

namespace SchoolNotice.Template

open SchoolNotice.Text

inductive Candidate where
  | path (name : List Char)
  | literal (text : List Char)
deriving DecidableEq, Repr

/-- A slot to be filled by the first candidate that has a value. -/
structure Placeholder where
  source : List Char
  candidates : List Candidate
deriving DecidableEq, Repr

inductive Token where
  | text (source : List Char)
  | placeholder (slot : Placeholder)
  | blockOpen (source path : List Char)
  | blockClose (source : List Char)
deriving DecidableEq, Repr

namespace Token

def source : Token → List Char
  | .text source => source
  | .placeholder slot => slot.source
  | .blockOpen source _ => source
  | .blockClose source => source

end Token

def isBrace (char : Char) : Bool := char == '{' || char == '}'

def enclose (inner : List Char) : List Char := '{' :: '{' :: (inner ++ ['}', '}'])

def unquoteWith (quote : Char) : List Char → Option (List Char)
  | [] => none
  | first :: rest =>
      if first = quote ∧ rest.getLast? = some quote then some rest.dropLast else none

def unquote (text : List Char) : Option (List Char) :=
  match unquoteWith '\x27' text with
  | some inner => some inner
  | none => unquoteWith '\x22' text

def Candidate.ofText (text : List Char) : Candidate :=
  match unquote text with
  | some inner => .literal inner
  | none => .path text

def candidatesOf (text : List Char) : List Candidate :=
  (splitDouble '|' text).map fun piece => Candidate.ofText (trim piece)

/-- The path of a block opener, from what follows `#if`: one word after at least one blank. -/
def openerPath? (rest : List Char) : Option (List Char) :=
  let path := trim rest
  let separated := (rest.head?.map isBlank).getD false
  if separated && path != [] && !path.any isBlank then some path else none

def classify (inner : List Char) : Option Token :=
  let text := trim inner
  if text = [] then none
  else
    match dropStart ['#', 'i', 'f'] text with
    | some rest => (openerPath? rest).map (.blockOpen (enclose inner))
    | none =>
        if text = ['/', 'i', 'f'] then some (.blockClose (enclose inner))
        else if text.head? = some '#' ∨ text.head? = some '/' then none
        else some (.placeholder ⟨enclose inner, candidatesOf text⟩)

/-- A tag stands for exactly the text it was read from. -/
theorem source_of_classify {inner : List Char} {token : Token}
    (classified : classify inner = some token) : token.source = enclose inner := by
  unfold classify at classified
  simp only at classified
  split at classified
  · simp at classified
  · split at classified
    · simp only [Option.map_eq_some_iff] at classified
      obtain ⟨path, _, rfl⟩ := classified
      rfl
    · split at classified
      · simp only [Option.some.injEq] at classified
        subst classified
        rfl
      · split at classified
        · simp at classified
        · simp only [Option.some.injEq] at classified
          subst classified
          rfl

end SchoolNotice.Template
