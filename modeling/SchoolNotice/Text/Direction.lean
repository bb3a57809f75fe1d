import SchoolNotice.Text.CodeRange
import SchoolNotice.Text.Letter
import SchoolNotice.Text.Mark

/-!
The direction in which a text is written, and when the labels of a domain keep one direction
throughout, so that they read the same wherever they stand. The tables follow Unicode 17.
-/

namespace SchoolNotice.Text

/-- How a character takes part in the direction of its line: letters of either direction, numerals
of Arabic and the other numerals, marks, and all that has no direction of its own. -/
inductive Direction where
  | left
  | right
  | arabicNumeral
  | numeral
  | mark
  | neutral
deriving DecidableEq, Repr

namespace Direction

def rightRanges : List CodeRange :=
  [(0x590, 0x8FF), (0xFB1D, 0xFDFF), (0xFE70, 0xFEFF), (0x10800, 0x10FFF), (0x1E800, 0x1EFFF)]

def signRanges : List CodeRange :=
  [(0x606, 0x607), (0x609, 0x60A), (0x60C, 0x60C), (0x60E, 0x60F), (0x66A, 0x66A), (0x6DE, 0x6DE),
    (0x6E9, 0x6E9), (0x7F6, 0x7F9), (0xFD3E, 0xFD4F), (0xFDCF, 0xFDCF), (0xFDFD, 0xFDFF),
    (0x1091F, 0x1091F), (0x10B39, 0x10B3F), (0x1EEF0, 0x1EEF1)]

def arabicNumeralRanges : List CodeRange :=
  [(0x600, 0x605), (0x660, 0x669), (0x66B, 0x66C), (0x6DD, 0x6DD), (0x890, 0x891), (0x8E2, 0x8E2),
    (0x10D30, 0x10D39), (0x10D40, 0x10D49), (0x10E60, 0x10E7E)]

def numeralRanges : List CodeRange :=
  [(0x30, 0x39), (0xB2, 0xB3), (0xB9, 0xB9), (0x6F0, 0x6F9), (0x2070, 0x2070), (0x2074, 0x2079),
    (0x2080, 0x2089), (0x102E1, 0x102FB)]

def ofChar (char : Char) : Direction :=
  if isExtending char then .mark
  else if CodeRange.covers numeralRanges char then .numeral
  else if CodeRange.covers arabicNumeralRanges char then .arabicNumeral
  else if CodeRange.covers signRanges char then .neutral
  else if CodeRange.covers rightRanges char then .right
  else if isLetterOrNumber char then .left
  else .neutral

/-- Whether a text with this direction in it runs from right to left somewhere. -/
def turns : Direction → Bool
  | right | arabicNumeral => true
  | _ => false

/-- Whether a label keeps one direction: it begins with a letter, has none of the other direction,
and ends with a letter or a numeral of its own, marks left out; numerals of both kinds do not meet
in it. -/
def isSteady (label : List Char) : Bool :=
  let directions := label.map ofChar
  let last := (directions.reverse.dropWhile (· == mark)).head?
  match directions.head? with
  | some right =>
      !directions.contains left && last.any ([right, numeral, arabicNumeral].contains ·) &&
        !(directions.contains numeral && directions.contains arabicNumeral)
  | some left => !directions.any turns && last.any ([left, numeral].contains ·)
  | _ => false

end Direction

end SchoolNotice.Text
