/-!
# Themes

A theme is a style sheet for the window.  Which one is preferred is said by the
environment, by the settings, or by what was saved before, in this order.
-/

namespace BytecodeViewer

/-!
## Style sheets

A style sheet is a list of rules; a rule gives values to properties of the parts of
a window that its selector names.
-/

structure StyleRule where
  selector : String
  declarations : List (String × String)
  deriving DecidableEq, Repr

abbrev StyleSheet := List StyleRule

namespace StyleSheet

def declarationText (property value : String) : String :=
  "    " ++ property ++ ": " ++ value ++ ";\n"

def ruleText (r : StyleRule) : String :=
  r.selector ++ " \x7b\n" ++
    String.join (r.declarations.map fun (property, value) => declarationText property value) ++
    "\x7d\n"

def text (sheet : StyleSheet) : String :=
  String.join (sheet.map ruleText)

end StyleSheet

/-! ## Light and dark -/

inductive Theme where
  | light
  | dark
  deriving DecidableEq, Repr

namespace Theme

def all : List Theme := [light, dark]

def name : Theme → String
  | light => "light"
  | dark => "dark"

def ofName? (name : String) : Option Theme :=
  all.find? (·.name == name)

def lightSheet : StyleSheet := [
    ⟨"QWidget#mainRoot", [("background", "#fafafa")]⟩,
    ⟨"QPlainTextEdit#codeView",
      [("background", "#ffffff"), ("color", "#202020"), ("border", "1px solid #d0d0d0")]⟩,
    ⟨"QTreeWidget", [("background", "#ffffff"), ("border", "1px solid #d0d0d0")]⟩,
    ⟨"QLineEdit, QComboBox", [("padding", "4px 6px")]⟩,
    ⟨"QLabel[role=\"muted\"]", [("color", "#707070")]⟩]

def darkSheet : StyleSheet := [
    ⟨"QWidget", [("background", "#1e2227"), ("color", "#d7dae0")]⟩,
    ⟨"QPlainTextEdit#codeView",
      [("background", "#f5f5f5"), ("color", "#202020"), ("border", "1px solid #3a3f47")]⟩,
    ⟨"QTreeWidget, QLineEdit, QComboBox",
      [("background", "#252a31"), ("border", "1px solid #3a3f47")]⟩,
    ⟨"QTreeWidget::item:selected", [("background", "#2f5d8a")]⟩,
    ⟨"QLineEdit, QComboBox", [("padding", "4px 6px")]⟩,
    ⟨"QLabel[role=\"muted\"]", [("color", "#8b929c")]⟩]

def sheet : Theme → StyleSheet
  | light => lightSheet
  | dark => darkSheet

/-- The first wish that is the name of a theme counts, or else it is the light one. -/
def preferred (wishes : List (Option String)) : Theme :=
  (wishes.findSome? fun wish => wish.bind ofName?).getD light

/-- The theme for a name; without one the wishes count. -/
def select (name : Option String) (wishes : List (Option String)) : Theme :=
  match name.filter (· != "") with
  | some s => (ofName? s).getD light
  | none => preferred wishes

end Theme

end BytecodeViewer
