import BytecodeViewer.Logging.Output
import BytecodeViewer.Session.Session
import BytecodeViewer.Settings.Source
import BytecodeViewer.Viewer.Theme

/-!
# Launching the viewer

The window is shown with the settings and the theme that is preferred, and opens
the file that is named, if any.  With bad settings nothing is shown.
-/

namespace BytecodeViewer

/-- A window that is shown. -/
structure Launch where
  settings : Settings
  theme : Theme
  /-- The file that is opened at once. -/
  file : Option Path := none
  deriving DecidableEq, Repr

namespace Launch

def applicationName : String := appTitle

def organizationName : String := "dex-viewer"

def themeFor (h : Host) (s : Settings) (saved : Option String) : Theme :=
  Theme.preferred [h.environment.lookup "DV_GUI_THEME", s.theme, saved]

/-- The window for a list of words, the first of which names the program; or what is
wrong with the settings. -/
def start (words : List String) (config : Option Path) (saved : Option String) :
    Act Host (Except Failure Launch) := do
  let _ ← Act.carrying {} (LogOutput.configure {})
  match ← (Settings.load config).attempt with
  | .ok settings =>
    let theme ← Act.look (themeFor · settings saved)
    return .ok { settings, theme, file := (words[1]?).map Path.ofText }
  | .error f => if f.family? = some .configuration then return .error f else throw f

end Launch

end BytecodeViewer
