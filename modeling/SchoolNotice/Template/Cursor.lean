import SchoolNotice.Text.Utf8
import SchoolNotice.Template.Token

/-!
Cutting a template into tokens by byte offsets. The cursor keeps two of them, where the text begins
that no token holds yet and where the search goes on, and every slice and every byte that it asks
for can be missing: offsets outside the template or inside a character, or in the wrong order.
-/

namespace SchoolNotice.Template

open SchoolNotice.Text

structure Cursor where
  found : List Token
  textStart : Nat
  place : Nat
deriving DecidableEq, Repr

def Token.withSource (source : List Char) : Token → Token
  | .text _ => .text source
  | .placeholder slot => .placeholder { slot with source }
  | .blockOpen _ path => .blockOpen source path
  | .blockClose _ => .blockClose source

namespace Cursor

inductive Turn where
  | next (cursor : Cursor)
  | finish
deriving DecidableEq, Repr

def start : Cursor := ⟨[], 0, 0⟩

def findDouble (mark : Char) (text : List Char) : Option Nat :=
  (cutDouble mark text).map fun (before, _) => Utf8.size before

def findBrace (text : List Char) : Option Nat :=
  (cutLast isBrace text).map fun (before, _, _) => Utf8.size before

def openByte : UInt8 := 0x7b

/-- Where the search goes on if the last brace before the close at `close` stands at `brace`: at
the two opening braces that end there, if there are two, and else at the close. -/
def skipTo (input : List Char) (brace close : Nat) : Option Nat := do
  let last ← (Utf8.bytes input)[brace]?
  if last = openByte then
    match brace with
    | 0 => none
    | before + 1 =>
        let previous ← (Utf8.bytes input)[before]?
        return if previous = openByte then before else close
  else return close

def textBetween (input : List Char) (first last : Nat) : Option (List Token) :=
  if first < last then (Utf8.slice first last input).map fun text => [.text text] else some []

/-- The cursor behind the text `inner` that stands between the doubled braces at two offsets. -/
def settle (input : List Char) (cursor : Cursor) (opener close : Nat) (inner : List Char) :
    Option Cursor := do
  if let some brace := findBrace inner then
    let place ← skipTo input (opener + 2 + brace) close
    return { cursor with place }
  let source ← Utf8.slice opener (close + 2) input
  let some token := classify inner | return { cursor with place := close + 2 }
  let text ← textBetween input cursor.textStart opener
  return ⟨cursor.found ++ text ++ [token.withSource source], close + 2, close + 2⟩

def turn (input : List Char) (cursor : Cursor) : Option Turn := do
  let unread ← Utf8.slice cursor.place (Utf8.size input) input
  let some offset := findDouble '{' unread | return .finish
  let opener := cursor.place + offset
  let behind ← Utf8.slice (opener + 2) (Utf8.size input) input
  let some length := findDouble '}' behind | return .finish
  let close := opener + 2 + length
  let inner ← Utf8.slice (opener + 2) close input
  let following ← cursor.settle input opener close inner
  return .next following

def close (input : List Char) (cursor : Cursor) : Option (List Token) := do
  let text ← textBetween input cursor.textStart (Utf8.size input)
  return cursor.found ++ text

end Cursor

end SchoolNotice.Template
