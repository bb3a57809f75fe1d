import SchoolNotice.Template.Node
import SchoolNotice.Template.Image
import SchoolNotice.Context
import SchoolNotice.Json.Compact

/-!
Filling a template. First the blocks are decided, which leaves a list of leaves; then each
placeholder is filled. The window in which an attribute opener is looked for is taken from the
source of the leaves before it, so no value that was filled in is ever looked at again.
-/

namespace SchoolNotice.Template

/-- What a placeholder is filled with. Only a string can become an image tag. -/
inductive Filling where
  | string (text : List Char)
  | other (text : List Char)
deriving DecidableEq, Repr

namespace Filling

def text : Filling → List Char
  | .string text => text
  | .other text => text

/-- The filling of a value: null and empty text fill nothing. -/
def ofJson? : Json → Option Filling
  | .null => none
  | .string text => if text = "" then none else some (.string text.toList)
  | value => some (.other value.compactChars)

def write (filling : Filling) (window : List Char) : List Char :=
  match filling with
  | .string text => (embed? text window).getD text
  | .other text => text

end Filling

def Candidate.fill? (context : Context) : Candidate → Option Filling
  | .literal text => if text = [] then none else some (.string text)
  | .path name => (context.resolve? name).bind Filling.ofJson?

def Placeholder.fill? (slot : Placeholder) (context : Context) : Option Filling :=
  slot.candidates.findSome? (Candidate.fill? context)

def isKept (context : Context) (path : List Char) : Bool :=
  (context.resolve? path).any Json.isTruthy

def keptLeaves (context : Context) : List Node → List Leaf
  | [] => []
  | .leaf leaf :: rest => leaf :: keptLeaves context rest
  | .block path body :: rest =>
      (if isKept context path then body else []) ++ keptLeaves context rest

def Leaf.write (context : Context) (before : List Char) : Leaf → List Char
  | .text source => source
  | .placeholder slot =>
      match slot.fill? context with
      | some filling => filling.write (Text.tail lookBack before)
      | none => []

/-- What each leaf writes, the leaves before it having the source `before`. Of that source only
the last characters matter, so no more are kept. -/
def pieces (context : Context) (before : List Char) : List Leaf → List (List Char)
  | [] => []
  | leaf :: rest =>
      leaf.write context before ::
        pieces context (Text.tail lookBack (before ++ leaf.source)) rest

def interpolate (context : Context) (leaves : List Leaf) : List Char :=
  (pieces context [] leaves).flatten

def render (context : Context) (template : List Char) : List Char :=
  interpolate context (keptLeaves context (Node.ofText template))

def renderText (context : Context) (pattern : String) : String :=
  String.ofList (render context pattern.toList)

end SchoolNotice.Template
