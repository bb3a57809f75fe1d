import SchoolNotice.Text.Blank

/-!
The five themes. They differ in colours, font and spacing only.
-/

namespace SchoolNotice

inductive Theme where
  | classic
  | modern
  | minimal
  | vibrant
  | formal
deriving DecidableEq, Inhabited, Repr

namespace Theme

def all : List Theme := [.classic, .modern, .minimal, .vibrant, .formal]

def name : Theme → String
  | .classic => "classic"
  | .modern => "modern"
  | .minimal => "minimal"
  | .vibrant => "vibrant"
  | .formal => "formal"

def ofName? (name : String) : Option Theme := all.find? fun theme => theme.name == name

/-- The theme of a stored name; blanks around it do not count, and an unknown one is `classic`. -/
def ofStored (name : String) : Theme := (ofName? (Text.trimmed name)).getD .classic

structure Preset where
  pageBackground : String
  cardBackground : String
  headerBackground : String
  headerText : String
  text : String
  mutedText : String
  accent : String
  fontFamily : String
  headerAlign : String
  contentPadding : String
  borderRadius : String
deriving DecidableEq, Repr

def preset : Theme → Preset
  | .classic =>
      { pageBackground := "#f4f4f7", cardBackground := "#ffffff", headerBackground := "#1f3a5f"
        headerText := "#ffffff", text := "#333333", mutedText := "#6b7280", accent := "#1f3a5f"
        fontFamily := "Georgia,'Times New Roman',serif", headerAlign := "center"
        contentPadding := "32px", borderRadius := "6px" }
  | .modern =>
      { pageBackground := "#eef2ff", cardBackground := "#ffffff", headerBackground := "#4f46e5"
        headerText := "#ffffff", text := "#1f2937", mutedText := "#6b7280", accent := "#4f46e5"
        fontFamily := "'Helvetica Neue',Arial,sans-serif", headerAlign := "left"
        contentPadding := "28px", borderRadius := "16px" }
  | .minimal =>
      { pageBackground := "#ffffff", cardBackground := "#ffffff", headerBackground := "#ffffff"
        headerText := "#111111", text := "#111111", mutedText := "#8a8a8a", accent := "#111111"
        fontFamily := "-apple-system,'Segoe UI',Roboto,sans-serif", headerAlign := "left"
        contentPadding := "16px", borderRadius := "0" }
  | .vibrant =>
      { pageBackground := "#fff7ed", cardBackground := "#ffffff", headerBackground := "#f97316"
        headerText := "#ffffff", text := "#292524", mutedText := "#78716c", accent := "#db2777"
        fontFamily := "'Trebuchet MS',Verdana,sans-serif", headerAlign := "center"
        contentPadding := "28px", borderRadius := "20px" }
  | .formal =>
      { pageBackground := "#f5f5f0", cardBackground := "#fffffa", headerBackground := "#2b2b2b"
        headerText := "#f5f5f0", text := "#222222", mutedText := "#5c5c5c", accent := "#7a1f1f"
        fontFamily := "'Palatino Linotype','Book Antiqua',Palatino,serif", headerAlign := "center"
        contentPadding := "40px", borderRadius := "2px" }

end Theme

end SchoolNotice
