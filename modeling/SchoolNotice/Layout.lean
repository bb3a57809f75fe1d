import SchoolNotice.Tenant.Profile
import SchoolNotice.Text.Escaped
import SchoolNotice.Theme

/-!
The page that a theme puts around a body. One layout serves all themes: fixed text with slots, which
are made safe as they are filled, except the font and the body. The logo and the line of contact
details are left out where the tenant has none.
-/

namespace SchoolNotice

namespace Layout

structure Filling where
  look : Theme.Preset
  tenantName : String
  logoUrl : Option String
  contacts : List String
  body : List Char

inductive Slot where
  | tenantName
  | logoUrl
  | contacts
  | body
  | look (field : Theme.Preset → String)

def joined (separator : String) : List String → String
  | [] => ""
  | [text] => text
  | text :: rest => text ++ separator ++ joined separator rest

namespace Slot

def text (filling : Filling) : Slot → List Char
  | .tenantName => filling.tenantName.toList
  | .logoUrl => (filling.logoUrl.getD "").toList
  | .contacts => (joined " | " filling.contacts).toList
  | .body => filling.body
  | .look field => (field filling.look).toList

end Slot

/-- A fixed text, or a slot that is made safe or filled as it is. -/
inductive Leaf where
  | markup (text : String)
  | escaped (slot : Slot)
  | verbatim (slot : Slot)

namespace Leaf

def write (filling : Filling) : Leaf → List Char
  | .markup text => text.toList
  | .escaped slot => Text.Escaped.encode (slot.text filling)
  | .verbatim slot => slot.text filling

end Leaf

inductive Condition where
  | always
  | logo
  | contacts
deriving DecidableEq, Repr

namespace Condition

def holds (filling : Filling) : Condition → Bool
  | .always => true
  | .logo => filling.logoUrl.isSome
  | .contacts => !filling.contacts.isEmpty

end Condition

structure Section where
  condition : Condition
  leaves : List Leaf

namespace Section

def write (filling : Filling) (part : Section) : List Char :=
  if part.condition.holds filling then part.leaves.flatMap (Leaf.write filling) else []

end Section

def fill (filling : Filling) (sections : List Section) : List Char :=
  sections.flatMap (Section.write filling)

def preamble : String :=
  "<!DOCTYPE html>\n<html>\n<head>\n<meta charset=\"utf-8\">\n" ++
    "<meta name=\"viewport\" content=\"width=device-width,initial-scale=1\">\n<title>"

def head : List Section :=
  [⟨.always,
    [.markup preamble,
    .escaped .tenantName,
    .markup "</title>",
    .markup "\n</head>\n<body style=\"margin:0;padding:24px 0;background:",
    .escaped (.look Theme.Preset.pageBackground),
    .markup ";font-family:",
    .verbatim (.look Theme.Preset.fontFamily),
    .markup ";color:",
    .escaped (.look Theme.Preset.text),
    .markup (";\">\n<table role=\"presentation\" width=\"100%\" cellpadding=\"0\" " ++
      "cellspacing=\"0\">\n<tr><td align=\"center\">\n<table role=\"presentation\" " ++
      "width=\"600\" cellpadding=\"0\" cellspacing=\"0\" style=\"max-width:600px;background:"),
    .escaped (.look Theme.Preset.cardBackground),
    .markup ";border-radius:",
    .escaped (.look Theme.Preset.borderRadius),
    .markup ";overflow:hidden;\">\n<tr><td style=\"padding:20px ",
    .escaped (.look Theme.Preset.contentPadding),
    .markup ";background:",
    .escaped (.look Theme.Preset.headerBackground),
    .markup ";color:",
    .escaped (.look Theme.Preset.headerText),
    .markup ";text-align:",
    .escaped (.look Theme.Preset.headerAlign),
    .markup ";border-bottom:3px solid ",
    .escaped (.look Theme.Preset.accent),
    .markup ";\">\n"]⟩,
  ⟨.logo,
    [.markup "<img src=\"",
    .escaped .logoUrl,
    .markup "\" alt=\"",
    .escaped .tenantName,
    .markup ("\" style=\"max-height:56px;max-width:200px;border:0;" ++
      "margin-bottom:8px;\" /><br>")]⟩,
  ⟨.always,
    [.markup "<span style=\"font-size:20px;font-weight:bold;\">",
    .escaped .tenantName,
    .markup "</span>\n</td></tr>\n<tr><td style=\"padding:",
    .escaped (.look Theme.Preset.contentPadding),
    .markup ";line-height:1.6;\">\n"]⟩]

def foot : List Section :=
  [⟨.always,
    [.markup "\n</td></tr>\n<tr><td style=\"padding:16px ",
    .escaped (.look Theme.Preset.contentPadding),
    .markup ";font-size:12px;color:",
    .escaped (.look Theme.Preset.mutedText),
    .markup ";text-align:center;border-top:1px solid ",
    .escaped (.look Theme.Preset.accent),
    .markup ";\">\n<strong>",
    .escaped .tenantName,
    .markup "</strong>"]⟩,
  ⟨.contacts, [.markup "<br>", .escaped .contacts]⟩,
  ⟨.always, [.markup "\n</td></tr>\n</table>\n</td></tr>\n</table>\n</body>\n</html>\n"]⟩]

def layout : List Section := head ++ ⟨.always, [.verbatim .body]⟩ :: foot

end Layout

namespace Theme

def contacts (branding : Branding) : List String :=
  ([branding.address, branding.phone, branding.email].filterMap id).filter (· != "")

def filling (body : List Char) (theme : Theme) (branding : Branding) : Layout.Filling :=
  { look := theme.preset
    tenantName := branding.tenantName
    logoUrl := branding.logoUrl.filter (· != "")
    contacts := contacts branding
    body := body }

def wrap (body : List Char) (theme : Theme) (branding : Branding) : List Char :=
  Layout.fill (filling body theme branding) Layout.layout

end Theme

end SchoolNotice
