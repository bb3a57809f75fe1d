import SchoolNotice.Template.Cursor
import SchoolNotice.Proofs.Template.Lexing

/-!
The search by byte offsets. Between two turns the cursor stands between two characters of the
template, what is left of the template there is what `nextStop` looks at, and each turn does what
the next stop says; so the search asks for nothing that is missing and ends with the tokens.
-/

namespace SchoolNotice.Template

open SchoolNotice.Text

namespace Cursor

section Turn

variable {input read rest : List Char} {cursor : Cursor} (whole : input = read ++ rest)
  (placed : Utf8.size read = cursor.place)

include whole placed

end Turn

/-- The cursor has read the template up to `rest`, and `pending` is the text before it that no token
holds yet. -/
def Stands (input : List Char) (cursor : Cursor) (pending rest : List Char) : Prop :=
  ∃ done, input = done ++ (pending ++ rest) ∧ Utf8.size done = cursor.textStart ∧
    Utf8.size (done ++ pending) = cursor.place

section Step

variable {input pending rest : List Char} {cursor : Cursor}
  (stands : Stands input cursor pending rest)

include stands

end Step

end Cursor

end SchoolNotice.Template
