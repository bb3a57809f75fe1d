import SchoolNotice.Template.Node

/-!
Openers and their closes in a list of tokens. `Paired` says which go together: an opener outside any
block goes with the first close behind it, and without one it stands alone, as does a close that no
opener goes with. `BlockAt` says the same by the places of the tokens.
-/

namespace SchoolNotice.Template

/-- A token that stands alone, or an opener with its body and its close. -/
inductive Group where
  | single (token : Token)
  | block (source path : List Char) (body : List Token) (close : List Char)
deriving DecidableEq, Repr

namespace Group

def tokens : Group → List Token
  | .single token => [token]
  | .block source path body close =>
      .blockOpen source path :: (body ++ [.blockClose close])

def node : Group → Node
  | .single token => .leaf (Leaf.ofToken token)
  | .block _ path body _ => .block path (body.map Leaf.ofToken)

/-- The node of a group written back, a block's body between its two tags. -/
def write : Group → List Char
  | .single token => (Leaf.ofToken token).source
  | .block source _ body close =>
      source ++ (body.map Leaf.ofToken).flatMap Leaf.source ++ close

/-- A block of these groups begins with the token at `first` and ends with the one at `last`. -/
def Spans (groups : List Group) (first last : Nat) : Prop :=
  ∃ left source path body close right, groups = left ++ .block source path body close :: right ∧
    (left.flatMap tokens).length = first ∧ first + body.length + 1 = last

end Group

def Unclosed (tokens : List Token) : Prop := ∀ source, Token.blockClose source ∉ tokens

inductive Paired : List Token → List Group → Prop
  | nil : Paired [] []
  | single {token : Token} {rest : List Token} {groups : List Group}
      (alone : ∀ source path, token = .blockOpen source path → Unclosed rest)
      (others : Paired rest groups) : Paired (token :: rest) (.single token :: groups)
  | block {source path close : List Char} {body after : List Token} {groups : List Group}
      (inside : Unclosed body) (others : Paired after groups) :
      Paired (.blockOpen source path :: (body ++ .blockClose close :: after))
        (.block source path body close :: groups)

def ClosesAt (tokens : List Token) (first last : Nat) : Prop :=
  first < last ∧ (∃ source, tokens[last]? = some (.blockClose source)) ∧
    ∀ place source, first < place → place < last → tokens[place]? ≠ some (.blockClose source)

/-- The opener at `first` is inside no earlier block, and the first close behind it stands at
`last`. -/
def BlockAt (tokens : List Token) (first last : Nat) : Prop :=
  (∃ source path, tokens[first]? = some (.blockOpen source path)) ∧ ClosesAt tokens first last ∧
    ∀ earlier, earlier < first → ∀ close, BlockAt tokens earlier close → close < first
termination_by first

end SchoolNotice.Template
