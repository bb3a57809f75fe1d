/-!
The two spellings of a key: snake case (`first_name`) and camel case (`firstName`). Only ASCII
letters change, and a capital at the very start gets no underscore.
-/

namespace SchoolNotice.Text.KeyCase

def snakeChar (char : Char) : List Char :=
  if char.isUpper then ['_', char.toLower] else [char]

/-- Every capital becomes an underscore and its small letter; one at the start only its small
letter. -/
def snake : List Char → List Char
  | [] => []
  | first :: rest => first.toLower :: rest.flatMap snakeChar

/-- An underscore before a small letter goes, and the letter becomes a capital. -/
def camel : List Char → List Char
  | [] => []
  | [char] => [char]
  | char :: next :: rest =>
      if char = '_' ∧ next.isLower then next.toUpper :: camel rest
      else char :: camel (next :: rest)

/-- The other spelling of a key, if it has one: camel case for a key with an underscore, else
snake case for a key with a capital. -/
def alternate (key : List Char) : Option (List Char) :=
  let other :=
    if '_' ∈ key then some (camel key)
    else if key.any Char.isUpper then some (snake key)
    else none
  other.filter (· != key)

def snakeKey (key : String) : String := String.ofList (snake key.toList)

def camelKey (key : String) : String := String.ofList (camel key.toList)

end SchoolNotice.Text.KeyCase
