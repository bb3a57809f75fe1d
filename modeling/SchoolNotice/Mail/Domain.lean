import SchoolNotice.Mail.Word
import SchoolNotice.Text.Direction
import SchoolNotice.Text.Hidden
import SchoolNotice.Text.Joining
import SchoolNotice.Text.Punycode
import SchoolNotice.Text.Spelling

/-!
Domains of mail addresses. A domain is made of labels with single dots between them; a label begins
and ends with a letter or a number. A domain that breaks a rule as it is written may still keep them
in its ASCII form, in which characters are spelled out in ASCII where they stand for it, and a label
with any other character beyond ASCII becomes `xn--` and its Punycode.
-/

namespace SchoolNotice.Mail.Domain

open SchoolNotice.Text

/-- A word of at most 63 bytes between letters or numbers. -/
def isLabel (text : List Char) : Bool :=
  isWord text && text.head?.any isLetterOrNumber && text.getLast?.any isLetterOrNumber &&
    byteLength text ≤ 63

/-- Labels with single dots between them, at most 254 bytes in all. -/
def isPlain (text : List Char) : Bool := (split '.' text).all isLabel && byteLength text ≤ 254

/-- The codes that leave no trace in the ASCII form: the soft hyphen, fillers, formats without width
and selectors of a variant. -/
def tracelessRanges : List CodeRange :=
  [(0xAD, 0xAD), (0x34F, 0x34F), (0x115F, 0x1160), (0x17B4, 0x17B5), (0x180B, 0x180F),
    (0x200B, 0x200B), (0x2060, 0x2064), (0x206A, 0x206F), (0x3164, 0x3164), (0xFE00, 0xFE0F),
    (0xFEFF, 0xFEFF), (0xFFA0, 0xFFA0), (0x1BCA0, 0x1BCA3), (0x1D173, 0x1D17A),
    (0xE0100, 0xE01EF)]

/-- Characters that show and yet have no ASCII form: those with a dot of their own at the end,
descriptions of ideographs, and the signs for what cannot be shown. -/
def refusedRanges : List CodeRange :=
  [(0x2024, 0x2026), (0x2488, 0x249B), (0x2FF0, 0x2FFF), (0x31EF, 0x31EF), (0x33C2, 0x33C2),
    (0x33C7, 0x33C7), (0x33D8, 0x33D8), (0xFE12, 0xFE12), (0xFE19, 0xFE19), (0xFE30, 0xFE30),
    (0xFE52, 0xFE52), (0xFFFC, 0xFFFD), (0x1F100, 0x1F100)]

def isRefused (char : Char) : Bool :=
  (isUnseen char && !Joining.isJoiner char) || CodeRange.covers refusedRanges char

/-- The ASCII form of a label, if it has one of a length that counts. Refused characters have none,
nor does a mark without a character before it or a joiner that joins nothing. -/
def asciiLabel? (label : List Char) : Option (List Char) :=
  if label.all isAscii then some label
  else if label.length ≤ 63 ∧ !label.any isRefused ∧ !label.head?.any isExtending ∧
      Joining.allFit label then
    some ("xn--".toList ++ Punycode.encode label)
  else none

def spelledLabels (text : List Char) : List (List Char) :=
  let kept := text.filter fun char => !CodeRange.covers tracelessRanges char
  split '.' (kept.flatMap spelling)

/-- The ASCII form of a domain. If one label turns from right to left, all have to be steady. -/
def ascii? (text : List Char) : Option (List Char) :=
  let labels := spelledLabels text
  if labels.any (·.any fun char => (Direction.ofChar char).turns) &&
      !labels.all Direction.isSteady then none
  else (labels.mapM asciiLabel?).map fun labels => ['.'].intercalate labels

def isValid (text : List Char) : Bool := isPlain text || (ascii? text).any isPlain

end SchoolNotice.Mail.Domain
