import SchoolNotice.Layout
import SchoolNotice.Template.Render

/-!
A notice ready to be sent. Subject and body are filled on their own; the body is wrapped in the page
of its theme, and a subject is one line.
-/

namespace SchoolNotice

structure Rendered where
  subject : String
  html : String
deriving DecidableEq, Repr

structure Email where
  recipient : String
  subject : String
  html : String
  /-- The sender's address, where it is not the usual one. -/
  sender : Option String
deriving DecidableEq, Repr

namespace Rendered

/-- Line ends become spaces. -/
def oneLine (text : List Char) : List Char :=
  text.map fun char => if char = '\r' ∨ char = '\n' then ' ' else char

def ofPatterns (subject body : String) (theme : Theme) (context : Context) : Rendered :=
  { subject := String.ofList (oneLine (Template.render context subject.toList))
    html := String.ofList
      (theme.wrap (Template.render context body.toList) context.branding) }

def toEmail (rendered : Rendered) (recipient : String) (sender : Option String) : Email :=
  { recipient := recipient, subject := rendered.subject, html := rendered.html, sender := sender }

end Rendered

end SchoolNotice
