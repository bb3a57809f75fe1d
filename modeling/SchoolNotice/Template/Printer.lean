import SchoolNotice.Template.Node

/-!
Templates written from their parts: a placeholder as its candidates between doubled braces, literals
in quotes, and a block between an opener and a close.
-/

namespace SchoolNotice.Template

namespace Candidate

/-- A candidate as it stands in a tag; a literal stands between two quotes of the kind given. -/
def write (quote : Char) : Candidate → List Char
  | .path name => name
  | .literal text => quote :: (text ++ [quote])

end Candidate

def joinBars : List (List Char) → List Char
  | [] => []
  | [piece] => piece
  | piece :: rest => piece ++ ' ' :: '|' :: '|' :: ' ' :: joinBars rest

/-- The placeholder that is written for candidates, literals in single quotes. -/
def Placeholder.ofCandidates (candidates : List Candidate) : Placeholder :=
  ⟨enclose (joinBars (candidates.map (Candidate.write '\x27'))), candidates⟩

def blockOpener (path : List Char) : List Char := enclose ("#if ".toList ++ path)

def blockClose : List Char := enclose "/if".toList

namespace Node

def write : Node → List Char
  | .leaf part => part.source
  | .block path body => blockOpener path ++ body.flatMap Leaf.source ++ blockClose

end Node

def write (nodes : List Node) : List Char := nodes.flatMap Node.write

end SchoolNotice.Template
