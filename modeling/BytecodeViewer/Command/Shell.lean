import BytecodeViewer.Command.Command
import BytecodeViewer.Logging.Output
import BytecodeViewer.Plugin.ParserLookup
import BytecodeViewer.Session.Session
import BytecodeViewer.Settings.Source
import BytecodeViewer.Terminal.Markup
import BytecodeViewer.Terminal.Outline

/-!
# Running commands

Commands print to a terminal and end with a code: zero if all went well, one after a
failure that was told, two after a misuse.  Settings and parser are looked for when
they are first needed.
-/

namespace BytecodeViewer

structure Shell where
  width : Nat := 1000
  /-- The emoji that the terminal shows for their names. -/
  emoji : Terminal.EmojiTable := fun _ => none
  /-- Why the desktop viewer cannot be started, or the code it ends with. -/
  desktop : Except String Int := .ok 0
  config : Option Path := none
  settings : Option Settings := none
  parser : Option Parser := none
  /-- How the desktop viewer was started: its words and the settings file. -/
  launches : List (List String × Option Path) := []
  printed : String := ""
  logging : LogOutput := { level := 10 }

namespace Shell

/-! ## Printing -/

def write (s : String) : HostedAct Shell Unit :=
  Act.setOwn fun sh => { sh with printed := sh.printed ++ s }

def printText (s lineEnd : String) : HostedAct Shell Unit := do
  write (Terminal.shown (← Act.own).width s lineEnd)

def printMarkup (s : String) : HostedAct Shell Unit := do
  match Terminal.plainOfMarkup (← Act.own).emoji s with
  | .ok plain => printText plain "\n"
  | .error why => throw (.badMarkup why)

/-- Tells a failure; the command ends with code one. -/
def report (f : Failure) : HostedAct Shell Int := do
  printMarkup ("[red]" ++ Terminal.escape f.describe ++ "[/red]")
  return 1

def reportIf (isTold : Failure → Bool) (f : Failure) : HostedAct Shell Int :=
  if isTold f then report f else throw f

/-! ## Settings, parser and session -/

def findSettings : HostedAct Shell Settings := do
  let sh ← Act.own
  match sh.settings with
  | some s => return s
  | none =>
    let s ← Act.onHost (Settings.load sh.config)
    Act.setOwn fun sh => { sh with settings := some s }
    return s

def findParser : HostedAct Shell Parser := do
  match (← Act.own).parser with
  | some p => return p
  | none =>
    let p ← Act.onHost (ParserLookup.find (← findSettings).parser)
    Act.setOwn fun sh => { sh with parser := some p }
    return p

/-- Opens a file.  A language that is asked for has to exist; the usual one need not. -/
def openSession (file : Path) (asked : Option String) (sections : Sections) :
    HostedAct Shell Session := do
  let registry ← Act.onHost (Registry.builtin true)
  let (language, registry) ← match asked with
    | some name => pure (some name, registry)
    | none => do
      let usual := (← findSettings).language
      Act.onHost (Act.carrying registry (Registry.pickLanguage (some usual)))
  let parser ← findParser
  Act.onHost (Session.«open» file parser { registry := some registry, language, sections })

/-- Opens a file, lets a command use the session, and closes it. -/
def withSession (file : Path) (asked : Option String) (sections : Sections)
    (use : HostedAct (Shell × Session) Int) : HostedAct Shell Int := do
  match ← (openSession file asked sections).attempt with
  | .error f => reportIf (fun f => f.isTyped || f.isSystem) f
  | .ok session =>
    let closing : HostedAct (Shell × Session) Unit :=
      Session.close.onPart Prod.snd fun session s => (s.1, session)
    let sh ← Act.own
    let (outcome, (sh', _)) ←
      Act.onHost (Act.carrying (sh, session) (use.ensuring closing).attempt)
    Act.setOwn fun _ => sh'
    Act.ofExcept outcome

def onShell {α : Type} (a : HostedAct Shell α) : HostedAct (Shell × Session) α :=
  a.onPart Prod.fst fun sh s => (sh, s.2)

def onSession {α : Type} (a : HostedAct Session α) : HostedAct (Shell × Session) α :=
  a.onPart Prod.snd fun session s => (s.1, session)

/-! ## Commands -/

def listLanguages : HostedAct Shell Int := do
  let registry ← Act.onHost (Registry.builtin true)
  let (names, registry) ← Act.onHost (Act.carrying registry Registry.loadedNames)
  let usual := (← findSettings).language
  let (picked, _) ← Act.onHost (Act.carrying registry (Registry.pickLanguage (some usual)))
  printNames picked names
  return 0
where
  printNames (picked : Option String) : List String → HostedAct Shell Unit
    | [] => return
    | name :: names => do
      printMarkup (name ++ if picked = some name then " (default)" else "")
      printNames picked names

mutual

def outlineOf : TreeNode → Outline
  | .mk _ label _ _ children => .mk label (outlinesOf children)

def outlinesOf : List TreeNode → List Outline
  | [] => []
  | n :: ns => outlineOf n :: outlinesOf ns

end

def listClasses (file : Path) (filter : String) : HostedAct Shell Int :=
  withSession file none .standard do
    onSession (Session.setFilter filter)
    let session := (← Act.own).2
    match session.tree.visible with
    | [] => onShell (printText "No matching classes." "\n")
    | nodes =>
      let outline : Outline := .mk session.source.name (outlinesOf nodes)
      onShell do write (outline.shown (← Act.own).width)
    return 0

def selectionOf (r : RenderRequest) (m : LoadedModel) : Except Failure Selection := do
  match r.method.filter (· != "") with
  | none => return .wholeClass r.classRef
  | some method => return .method r.classRef (← m.methodKey r.classRef method)

def select (r : RenderRequest) : HostedAct Session Document := do
  let id := (← Act.own).model
  match ← Act.onHost (Act.look (·.models[id]?)) with
  | none => return .empty
  | some m =>
    let selection ← Act.ofExcept (selectionOf r m)
    Session.onPipeline (Pipeline.setSelection (some selection))

/-- The sections that the settings ask for. -/
def findSections : HostedAct Shell Sections := do
  let settings ← findSettings
  Act.ofExcept (Sections.ofNames settings.classSections)

def render (file : Path) (r : RenderRequest) : HostedAct Shell Int := do
  match ← findSections.attempt with
  | .error f => reportIf (fun f => f.isTyped || f.isValueFailure) f
  | .ok base =>
    withSession file r.language (base.toggleAll r.switches) do
      match ← (onSession (select r)).attempt with
      | .ok document => do
        onShell (printText document.text "")
        return 0
      | .error f => onShell (reportIf Failure.isTyped f)

def startDesktop (file : Option Path) : HostedAct Shell Int := do
  match (← Act.own).desktop with
  | .error why =>
    printMarkup
      ("[red]GUI dependencies missing (" ++ why ++ "). Install the 'gui' extra.[/red]")
    return 1
  | .ok code =>
    match ← findSettings.attempt with
    | .error f => reportIf (·.family? == some .configuration) f
    | .ok _ =>
      let words := "dexview" :: (file.map (·.text)).toList
      Act.setOwn fun sh => { sh with launches := sh.launches ++ [(words, sh.config)] }
      return code

def run : Command → HostedAct Shell Int
  | .languages => listLanguages
  | .classes file filter => listClasses file filter
  | .render file request => render file request
  | .gui file => startDesktop file

def prepare (o : SharedOptions) : HostedAct Shell Unit := do
  let request : LogRequest :=
    { level := if o.debug then none else some "WARNING", debug := o.debug, force := true }
  (LogOutput.configure request).onPart (·.logging) fun logging sh => { sh with logging }
  Act.setOwn fun sh => { sh with config := o.config, settings := none }

def codeOf : Refusal → Int
  | .help => 0
  | .misuse => 2

/-- Runs a command line and gives the code it ends with.  Only the name of the command
is looked at before the shared options take effect. -/
def main (words : List String) : HostedAct Shell Int := do
  match Command.readShared words with
  | .error refusal => return codeOf refusal
  | .ok (shared, []) =>
    prepare shared
    return 0
  | .ok (shared, name :: rest) =>
    match Command.reader? name with
    | none => return codeOf .misuse
    | some read =>
      prepare shared
      match read rest with
      | .error refusal => return codeOf refusal
      | .ok command => run command

end Shell

end BytecodeViewer
