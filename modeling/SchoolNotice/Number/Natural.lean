/-!
Natural numbers below a limit, read from decimal text. A plus sign may stand in front. The text is
read from the left and the first fault counts: a character that is no digit, or a digit with which
the number reaches the limit.
-/

namespace SchoolNotice.Number

inductive NaturalFault where
  | empty
  | invalidDigit
  | tooLarge
deriving DecidableEq, Repr

namespace NaturalFault

def message : NaturalFault → String
  | .empty => "cannot parse integer from empty string"
  | .invalidDigit => "invalid digit found in string"
  | .tooLarge => "number too large to fit in target type"

end NaturalFault

def readDigits (limit value : Nat) : List Char → Except NaturalFault Nat
  | [] => .ok value
  | char :: rest =>
      if char.isDigit then
        let next := value * 10 + (char.toNat - 48)
        if next < limit then readDigits limit next rest else .error .tooLarge
      else .error .invalidDigit

def readNatural (limit : Nat) : List Char → Except NaturalFault Nat
  | [] => .error .empty
  | '+' :: [] => .error .invalidDigit
  | '+' :: rest => readDigits limit 0 rest
  | text => readDigits limit 0 text

end SchoolNotice.Number
