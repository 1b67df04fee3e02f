import BytecodeViewer.Settings.Value

/-!
# Settings

The settings of the viewer.  What is given for them is checked setting by setting,
and all issues are told together.
-/

namespace BytecodeViewer

structure Settings where
  /-- The language that is selected when a file is opened. -/
  language : String := "Java"
  /-- The sections that are shown of a class. -/
  classSections : List String := ["annotations", "name", "details", "fields"]
  fontFamily : String := "Menlo"
  fontSize : Int := 12
  theme : Option String := none
  /-- The name of the parser; without one the first is taken. -/
  parser : Option String := none
  deriving DecidableEq, Repr

abbrev GivenSettings := List (String × SettingValue)

namespace Settings

def knownSections : List String := ["annotations", "name", "details", "fields", "methods"]

abbrev Checked (α : Type) := Except (List Issue) α

/-- Checks the value that is given for a setting; without one it has its default. -/
def check {α : Type} (given : GivenSettings) (field : String) (usual : α)
    (accept : SettingValue → Except IssueCause α) : Checked α :=
  match given.lookup field with
  | none => .ok usual
  | some v => (accept v).mapError fun cause => [{ field, cause }]

/-- Checks the items of a list, and tells the issues of all of them. -/
def checkItems (field : String) : Nat → List SettingValue → Checked (List String)
  | _, [] => .ok []
  | index, v :: vs =>
    match v.acceptText, checkItems field (index + 1) vs with
    | .ok s, .ok ss => .ok (s :: ss)
    | .ok _, .error issues => .error issues
    | .error cause, .ok _ => .error [{ field, index := some index, cause }]
    | .error cause, .error issues => .error ({ field, index := some index, cause } :: issues)

def sectionsField : String := "class_options"

/-- Only known sections are accepted. -/
def checkKnown (names : List String) : Checked (List String) :=
  match names.filter (!knownSections.contains ·) with
  | [] => .ok names
  | unknown =>
    .error [{
      field := sectionsField
      cause := .refused <| "Unknown class sections: " ++ String.intercalate ", " unknown ++
        " (expected any of " ++ String.intercalate ", " knownSections ++ ")" }]

def checkSections (given : GivenSettings) : Checked (List String) :=
  match given.lookup sectionsField with
  | none => .ok ({} : Settings).classSections
  | some (.list items) => do checkKnown (← checkItems sectionsField 0 items)
  | some _ => .error [{ field := sectionsField, cause := .notList }]

def issuesOf {α : Type} : Checked α → List Issue
  | .ok _ => []
  | .error issues => issues

/-- The settings that are given, or all issues with them in the order of the settings. -/
def ofGiven (given : GivenSettings) : Checked Settings :=
  let language := check given "default_language" "Java" (·.acceptFullText)
  let classSections := checkSections given
  let fontFamily := check given "font_family" "Menlo" (·.acceptText)
  let fontSize := check given "font_size" 12 (·.acceptIntWithin 6 72)
  let theme := check given "theme" none (·.acceptTextOrNull)
  let parser := check given "parser" none (·.acceptTextOrNull)
  match language, classSections, fontFamily, fontSize, theme, parser with
  | .ok language, .ok classSections, .ok fontFamily, .ok fontSize, .ok theme, .ok parser =>
    .ok { language, classSections, fontFamily, fontSize, theme, parser }
  | _, _, _, _, _, _ =>
    .error (issuesOf language ++ issuesOf classSections ++ issuesOf fontFamily ++
      issuesOf fontSize ++ issuesOf theme ++ issuesOf parser)

end Settings

end BytecodeViewer
