/-!
Texts as bytes in UTF-8. A text is cut at a byte offset only between two of its characters, and a
slice is named by the offsets of its two ends.
-/

namespace SchoolNotice.Text.Utf8

def bytes (text : List Char) : List UInt8 := text.flatMap String.utf8EncodeChar

def size (text : List Char) : Nat := (bytes text).length

/-- The parts before and after a byte offset. There are none if the text ends before the offset or
a character stands across it. -/
def cut : Nat → List Char → Option (List Char × List Char)
  | 0, text => some ([], text)
  | _ + 1, [] => none
  | offset + 1, char :: rest =>
      if char.utf8Size ≤ offset + 1 then
        (cut (offset + 1 - char.utf8Size) rest).map fun (before, after) => (char :: before, after)
      else none

def slice (start stop : Nat) (text : List Char) : Option (List Char) := do
  let (_, behind) ← cut start text
  if start ≤ stop then
    let (part, _) ← cut (stop - start) behind
    return part
  else none

end SchoolNotice.Text.Utf8
