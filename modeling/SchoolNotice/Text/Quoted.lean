import SchoolNotice.Text.Hex
import SchoolNotice.Text.Hidden

/-!
A text in double quotes for a message: quotes, backslashes, tabs and line ends are escaped by a
letter, and characters that would not show by their code.
-/

namespace SchoolNotice.Text.Quoted

def encodeChar (char : Char) : List Char :=
  if char = '\x00' then ['\\', '0']
  else if char = '\t' then ['\\', 't']
  else if char = '\r' then ['\\', 'r']
  else if char = '\n' then ['\\', 'n']
  else if char = '\x22' ∨ char = '\\' then ['\\', char]
  else if isHidden char then '\\' :: 'u' :: '{' :: (Hex.digits char.toNat ++ ['}'])
  else [char]

def encode (text : String) : String :=
  String.ofList ('\x22' :: (text.toList.flatMap encodeChar ++ ['\x22']))

end SchoolNotice.Text.Quoted
