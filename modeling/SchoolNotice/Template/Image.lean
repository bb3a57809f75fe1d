import SchoolNotice.Text.Blank
import SchoolNotice.Text.Cut

/-!
Values that are addresses of images, and where they may become image tags: not inside an attribute,
which is seen by an attribute opener among the last characters of the template before the slot.
-/

namespace SchoolNotice.Template

open SchoolNotice.Text

/-- How many characters before a slot are searched for an attribute opener. -/
def lookBack : Nat := 10

/-- The small ASCII letter that a character folds to, if it folds to one; other characters stay.
Outside ASCII these are the long s and the kelvin sign. -/
def foldCase (char : Char) : Char :=
  if char = '\u017f' then 's' else if char = '\u212a' then 'k' else char.toLower

/-- What follows `start` in any case, if the text begins with it; `start` is in small letters. -/
def dropFolded (start text : List Char) : Option (List Char) :=
  match start, text with
  | [], text => some text
  | _ :: _, [] => none
  | expected :: start, char :: text =>
      if foldCase char = expected then dropFolded start text else none

def imageRoots : List (List Char) := ["http://".toList, "https://".toList, "/uploads/".toList]

def imageExtensions : List (List Char) :=
  ["png".toList, "jpg".toList, "jpeg".toList, "gif".toList, "webp".toList, "svg".toList,
    "bmp".toList]

def isAddressChar (char : Char) : Bool :=
  !isBlank char && char != '\x22' && char != '\x27' && char != '<' && char != '>'

def endsAsImage (text : List Char) : Bool :=
  imageExtensions.any fun extension =>
    match dropFolded extension text with
    | some rest => rest.head?.all (· == '?')
    | none => false

def hasImageEnding : List Char → Bool
  | [] => false
  | char :: rest => (char == '.' && endsAsImage rest) || hasImageEnding rest

/-- The address of an image: a root, at least one character, a dot, an extension and perhaps a
query, with neither blanks nor quotes nor angle brackets. -/
def isImageAddress (value : List Char) : Bool :=
  match imageRoots.findSome? fun root => dropFolded root value with
  | some rest => rest.all isAddressChar && hasImageEnding (rest.drop 1)
  | none => false

def occursIn (part : List Char) : List Char → Bool
  | [] => part.isEmpty
  | char :: rest => part.isPrefixOf (char :: rest) || occursIn part rest

def attributeOpeners : List (List Char) := ["src=\"".toList, "href=\"".toList, "url(\"".toList]

def isAttributePosition (window : List Char) : Bool :=
  attributeOpeners.any fun opener => occursIn opener window

def imageTag (address : List Char) : List Char :=
  "<img src=\"".toList ++ address ++
    ("\" alt=\"\" style=\"display:block;max-width:100%;width:160px;height:auto;border:0;" ++
      "border-radius:8px;\" />").toList

def embed? (value window : List Char) : Option (List Char) :=
  if isImageAddress value && !isAttributePosition window then some (imageTag value) else none

end SchoolNotice.Template
