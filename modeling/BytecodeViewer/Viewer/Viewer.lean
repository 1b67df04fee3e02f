import BytecodeViewer.Plugin.ParserLookup
import BytecodeViewer.Session.Session
import BytecodeViewer.Settings.Settings

/-!
# The viewer

The viewer holds the session of the file that is open, and tells the window with
signals what has changed.  A file that cannot be opened leaves the session as it was.
-/

namespace BytecodeViewer

/-- What the window is told. -/
inductive Signal where
  | title (text : String)
  | languages (names : List String) (current : String)
  | tree (nodes : List TreeNode)
  | document (document : Document)
  | error (text : String)

structure Viewer where
  settings : Settings := {}
  /-- The parser, if it has been found already. -/
  parser : Option Parser := none
  session : Option Session := none
  /-- The signals so far. -/
  signals : List Signal := []

namespace Viewer

def channel : String := "dv_gui.viewmodels.viewer_vm"

def title (v : Viewer) : String :=
  match v.session with
  | some s => s.title
  | none => appTitle

def document (v : Viewer) : Document :=
  match v.session with
  | some s => s.pipeline.document
  | none => .empty

def language (v : Viewer) : String :=
  (v.session.bind (·.pipeline.language)).getD ""

def selection (v : Viewer) : Option Selection :=
  v.session.bind (·.pipeline.selection)

def signal (s : Signal) : HostedAct Viewer Unit :=
  Act.setOwn fun v => { v with signals := v.signals ++ [s] }

def onSession {α : Type} (a : HostedAct Session α) : HostedAct Viewer (Option α) := do
  match (← Act.own).session with
  | none => return none
  | some s =>
    let (outcome, s') ← Act.onHost (Act.carrying s a.attempt)
    Act.setOwn fun v => { v with session := some s' }
    some <$> Act.ofExcept outcome

/-- The languages that can be shown, after loading all plug-ins that wait. -/
def languages : HostedAct Viewer (List String) := do
  return (← onSession (Session.onPipeline (Pipeline.onRegistry Registry.loadedNames))).getD []

def findParser : HostedAct Viewer Parser := do
  let v ← Act.own
  match v.parser with
  | some p => return p
  | none =>
    let p ← Act.onHost (ParserLookup.find v.settings.parser)
    Act.setOwn fun v => { v with parser := some p }
    return p

def openSession (path : Path) : HostedAct Viewer Session := do
  let settings := (← Act.own).settings
  let registry ← Act.onHost (Registry.builtin true)
  let (language, registry) ←
    Act.onHost (Act.carrying registry (Registry.pickLanguage (some settings.language)))
  let parser ← findParser
  let sections ← Act.ofExcept (Sections.ofNames settings.classSections)
  Act.onHost (Session.«open» path parser { registry := some registry, language, sections })

/-- Closes the session.  A failure of closing is logged and goes no further. -/
def close : HostedAct Viewer Unit := do
  match (← Act.own).session with
  | none => return
  | some s =>
    Act.setOwn fun v => { v with session := none }
    let (outcome, _) ← Act.onHost (Act.carrying s Session.close.attempt)
    if let .error _ := outcome then
      Act.onHost <|
        Host.record channel .error ("Error while closing session for " ++ s.source.text) true
    signal (.title appTitle)
    signal (.document .empty)

/-- Opens a file in place of the one that is open.  Tells whether it could be opened. -/
def «open» (path : Path) : HostedAct Viewer Bool := do
  match ← (openSession path).attempt with
  | .error f =>
    Act.onHost <|
      Host.record channel .warning ("Failed to open " ++ path.text ++ ": " ++ f.message)
    signal (.error ("Failed to open " ++ path.name ++ ": " ++ f.describe))
    return false
  | .ok s =>
    close
    Act.setOwn fun v => { v with session := some s }
    signal (.title s.title)
    let names ← languages
    signal (.languages names (← Act.own).language)
    signal (.tree s.tree.visible)
    signal (.document (← Act.own).document)
    return true

/-- Changes what the pipeline shows; a failure is told, and the document in any case. -/
def display (a : HostedAct Pipeline Document) : HostedAct Viewer Unit := do
  match ← (onSession (Session.onPipeline a)).attempt with
  | .ok _ => pure ()
  | .error f => signal (.error f.describe)
  signal (.document (← Act.own).document)

def selectLanguage (name : String) : HostedAct Viewer Unit := do
  let v ← Act.own
  if v.session.isSome && name != "" && v.session.bind (·.pipeline.language) != some name then
    display (Pipeline.setLanguage name)

/-- Shows what a node stands for; a node that stands for nothing clears the selection. -/
def selectNode (node : Option TreeNode) : HostedAct Viewer Unit := do
  let v ← Act.own
  let selection := node.bind (·.selection?)
  if v.session.isSome && (selection.isNone || selection != v.selection) then
    display (Pipeline.setSelection selection)

/-- Filters the tree; a selection that is no longer visible is cleared. -/
def setFilter (text : String) : HostedAct Viewer Unit := do
  let _ ← onSession (Session.setFilter text)
  if let some s := (← Act.own).session then
    signal (.tree s.tree.visible)
    unless s.tree.isVisible s.pipeline.selection do
      selectNode none

end Viewer

end BytecodeViewer
