import SchoolNotice.Text.Cut
import SchoolNotice.Text.Letter

/-!
The words that users and domains of mail addresses are made of: letters and numbers of every script
and some marks of ASCII.
-/

namespace SchoolNotice.Mail

open SchoolNotice.Text

def wordMarks : List Char := "!#$%&\x27*+-/=?^_\x60\x7b|\x7d~".toList

def isWordChar (char : Char) : Bool := isLetterOrNumber char || wordMarks.contains char

def isWord (text : List Char) : Bool := !text.isEmpty && text.all isWordChar

/-- Words with single dots between them. -/
def isDotted (text : List Char) : Bool := (split '.' text).all isWord

def isAscii (char : Char) : Bool := char.toNat < 128

def byteLength (text : List Char) : Nat := (String.ofList text).utf8ByteSize

end SchoolNotice.Mail
