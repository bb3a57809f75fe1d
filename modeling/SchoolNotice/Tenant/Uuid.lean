import SchoolNotice.Text.Hex

/-!
Identifiers of 128 bits and their written forms. They are printed in lower case with hyphens; read
are also 32 digits in a row, and the hyphenated form in braces or after `urn:uuid:`.
-/

namespace SchoolNotice

structure Uuid where
  bits : BitVec 128
deriving DecidableEq, Inhabited, Repr

namespace Uuid

/-- The 32 digits, the highest first. -/
def digits (id : Uuid) : List Char :=
  (List.range 32).map fun index => Text.Hex.digit (id.bits.toNat / Nat.pow 16 (31 - index) % 16)

/-- Puts hyphens after the digits 8, 12, 16 and 20. -/
def hyphenate (digits : List Char) : List Char :=
  digits.take 8 ++ '-' :: (digits.drop 8).take 4 ++ '-' :: (digits.drop 12).take 4 ++
    '-' :: (digits.drop 16).take 4 ++ '-' :: digits.drop 20

def text (id : Uuid) : String := String.ofList (hyphenate id.digits)

def ofNat (value : Nat) : Uuid := ⟨BitVec.ofNat 128 value⟩

def ofDigits? (digits : List Char) : Option Uuid :=
  if digits.length = 32 then
    (digits.mapM Text.Hex.value?).map fun values =>
      ofNat (values.foldl (fun value digit => value * 16 + digit) 0)
  else none

def ofHyphenated? (text : List Char) : Option Uuid :=
  let digits := text.filter (· != '-')
  if hyphenate digits = text then ofDigits? digits else none

/-- Reads any of the written forms. -/
def ofText? (text : String) : Option Uuid :=
  let chars := text.toList
  match chars.length with
  | 32 => ofDigits? chars
  | 36 => ofHyphenated? chars
  | 38 =>
      if chars.head? = some '{' ∧ chars.getLast? = some '}' then
        ofHyphenated? (chars.drop 1).dropLast
      else none
  | 45 =>
      if chars.take 9 = "urn:uuid:".toList ∨ chars.take 9 = "URN:UUID:".toList then
        ofHyphenated? (chars.drop 9)
      else none
  | _ => none

end Uuid

end SchoolNotice
