import SchoolNotice.Mail.Domain
import SchoolNotice.Mail.Word
import SchoolNotice.Text.Blank
import SchoolNotice.Text.Cut

/-!
Mail addresses with or without a name in front. An address is a user and a domain with the at sign
between them; an address with a name stands between angle brackets, and its name is a phrase of
words, dots and quoted parts.
-/

namespace SchoolNotice

structure Mailbox where
  name : Option String
  user : String
  domain : String
deriving DecidableEq, Repr

namespace Mailbox

open SchoolNotice.Mail SchoolNotice.Text

def isGap (char : Char) : Bool := char == ' ' || char == '\t'

def isQuotable (char : Char) : Bool := char != '\n' && char != '\r' && char != '\x00'

/-- What a quoted text says, read behind the opening quote up to a closing one at the end. A
backslash takes the next character as it is; gaps before the closing quote do not count. -/
def unquoted? : List Char → Option (List Char)
  | [] => none
  | ['\x22'] => some []
  | '\\' :: char :: rest =>
      if isQuotable char && isAscii char then (unquoted? rest).map (char :: ·) else none
  | char :: rest =>
      if isGap char && rest.dropWhile isGap == ['\x22'] then some []
      else if char != '\x22' && isQuotable char then (unquoted? rest).map (char :: ·)
      else none

def isVisible (char : Char) : Bool := '!' ≤ char && char ≤ '~'

def isEscaped : List Char → Bool
  | [] => true
  | '\\' :: char :: rest => isVisible char && isEscaped rest
  | char :: rest =>
      (isGap char || isVisible char) && char != '\x22' && char != '\\' && isEscaped rest

def isQuotedUser (text : List Char) : Bool :=
  match text with
  | '\x22' :: rest => rest.getLast? == some '\x22' && rest.length > 1 && isEscaped rest.dropLast
  | _ => false

/-- Words with single dots between them or a text in quotes, at most 64 bytes in all. -/
def isUser (text : List Char) : Bool :=
  (isDotted text || isQuotedUser text) && byteLength text ≤ 64

/-- Reads a user. One that stands between quotes is what the quotes say. -/
def user? (text : List Char) : Option (List Char) :=
  (match text with
  | '\x22' :: rest => unquoted? rest
  | _ => some text).filter isUser

/-- Reads an address without a name. Gaps may stand before the user and before the domain. -/
def ofAddress? (name : Option String) (text : List Char) : Option Mailbox := do
  let (user, _, domain) ← cutLast (· == '@') text
  let user ← user? (user.dropWhile isGap)
  let domain := domain.dropWhile isGap
  if Domain.isValid domain then some ⟨name, String.ofList user, String.ofList domain⟩ else none

/-- How far a name is read: nothing yet, behind one of its parts, and inside a quoted part, there
also behind the backslash that takes the next character as it is. -/
inductive NamePlace where
  | start
  | behind
  | quoted
  | escaped
deriving DecidableEq, Repr

/-- The place after one more character; nothing if the character cannot stand there. A word of a
name holds every character beyond ASCII. Gaps may stand between the parts, and a dot never comes
first. -/
def NamePlace.next? : NamePlace → Char → Option NamePlace
  | quoted, '\x22' => some behind
  | quoted, '\\' => some escaped
  | quoted, char => if isQuotable char then some quoted else none
  | escaped, char => if isQuotable char && isAscii char then some quoted else none
  | place, char =>
      if isWordChar char || !isAscii char then some behind
      else if char = '\x22' then some quoted
      else if isGap char then some place
      else if char = '.' ∧ place = behind then some behind
      else none

/-- Cuts a text at the first opening bracket outside quotes, if what stands before it is a phrase or
nothing at all. -/
def cutName (place : NamePlace) : List Char → Option (List Char × List Char)
  | [] => none
  | char :: rest =>
      if char = '<' ∧ (place = .start ∨ place = .behind) then some ([], rest)
      else do
        let (name, after) ← cutName (← place.next? char) rest
        some (char :: name, after)

def ofText? (text : String) : Option Mailbox :=
  let chars := trim text.toList
  match cutName .start chars with
  | none => ofAddress? none chars
  | some (before, bracketed) =>
      let name := trim before
      if bracketed.getLast? = some '>' then
        ofAddress? (if name.isEmpty then none else some (String.ofList name)) bracketed.dropLast
      else none

def address (mailbox : Mailbox) : String := mailbox.user ++ "@" ++ mailbox.domain

def text (mailbox : Mailbox) : String :=
  match mailbox.name with
  | none => mailbox.address
  | some name => name ++ " <" ++ mailbox.address ++ ">"

end Mailbox

end SchoolNotice
