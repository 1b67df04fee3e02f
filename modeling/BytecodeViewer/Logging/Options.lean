import BytecodeViewer.Host.Host
import BytecodeViewer.Settings.Settings
import BytecodeViewer.Text.Case
import BytecodeViewer.Text.Numeral

/-!
# Options for logging

How records are written: from which level on, in which form, and to which file
besides standard error.  The environment gives the options.
-/

namespace BytecodeViewer

/-!
## Levels

Levels are numbers, and some of them have names.  A record is written if its level
reaches the one that is set.
-/

namespace Logging

/-- The names of levels; a level may have several. -/
def levelNames : List (String × Int) :=
  [("CRITICAL", 50), ("FATAL", 50), ("ERROR", 40), ("WARNING", 30), ("WARN", 30), ("INFO", 20),
    ("DEBUG", 10), ("NOTSET", 0)]

def debugLevel : Int := 10

def usualLevel : Int := 20

/-- A level is given by its number or its name; other words stand for the usual level. -/
def levelOfText (s : String) : Except Text.BadNumeral Int :=
  let word := Text.trim s
  if word ≠ "" ∧ word.toList.all Text.isDigitLike then Text.parseInteger 10 s
  else .ok ((levelNames.lookup (Text.upper word)).getD usualLevel)

def levelWord (n : Int) : String :=
  match levelNames.find? (·.2 == n) with
  | some (name, _) => Text.lower name
  | none => "level " ++ toString n

end Logging

/-! ## Options -/

structure LogOptions where
  level : Option String := none
  asJson : Bool := false
  file : Option Path := none
  deriving DecidableEq, Repr

namespace LogOptions

def acceptLevel : SettingValue → Except IssueCause (Option String)
  | .text s => .ok (if Text.isAllBlank s then none else some s)
  | v => v.acceptTextOrNull

/-- The options that are given, or all issues with them in the order of the options. -/
def ofGiven (given : GivenSettings) : Settings.Checked LogOptions :=
  let level := Settings.check given "level" none acceptLevel
  let asJson := Settings.check given "json_output" false (·.acceptFlag)
  let file := Settings.check given "file" none (·.acceptPathOrNull)
  match level, asJson, file with
  | .ok level, .ok asJson, .ok file => .ok { level, asJson, file }
  | _, _, _ =>
    .error (Settings.issuesOf level ++ Settings.issuesOf asJson ++ Settings.issuesOf file)

def ofEnvironment (h : Host) : LogOptions where
  level := (h.environment.lookup "DV_LOG_LEVEL").filter (!Text.isAllBlank ·)
  asJson := ((h.environment.lookup "DV_LOG_JSON").map SettingValue.isOn).getD false
  file := (h.environmentText? "DV_LOG_FILE").map Path.ofText

end LogOptions

end BytecodeViewer
