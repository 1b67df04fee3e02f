import BytecodeViewer.Session.ClassTree
import BytecodeViewer.Session.Pipeline
import BytecodeViewer.Session.Source

/-!
# Sessions

A session is what is loaded from one file: the model, its tree, and the pipeline
that shows it.  Opening either gives a session or leaves nothing behind; closing
disposes the model and deletes the temporary copy.
-/

namespace BytecodeViewer

def appTitle : String := "Dex Viewer"

structure Session where
  source : Path
  model : ModelId
  temp : Option Path
  pipeline : Pipeline
  tree : ClassTree
  closed : Bool := false

/-- How a file is to be opened.  Without a registry a new one is made, and without a
language the first one is taken. -/
structure OpenOptions where
  registry : Option Registry := none
  language : Option String := none
  sections : Sections := .standard

namespace Session

def channel : String := "dv_core.session"

def title (s : Session) : String :=
  appTitle ++ " - " ++ s.source.name

def onPipeline {α : Type} (a : HostedAct Pipeline α) : HostedAct Session α :=
  a.onPart (·.pipeline) fun pipeline s => { s with pipeline }

def setFilter (text : String) : HostedAct Session Unit :=
  Act.setOwn fun s => { s with tree := s.tree.setFilter text }

/-- Parsers may raise typed failures and those of the system; others are told as
failures to parse. -/
def parseFailure (source : Path) (f : Failure) : Failure :=
  if f.isTyped || f.isSystem then f else .unparsable source f

def makePipeline (o : OpenOptions) : Act Host (Pipeline × Option String) := do
  let registry ← match o.registry with
    | some r => pure r
    | none => Registry.builtin true
  let language := o.language <|> registry.names.head?
  let pipeline : Pipeline := { registry, sections := o.sections }
  match language with
  | none => return (pipeline, none)
  | some name =>
    let (_, pipeline) ← Act.carrying pipeline (Pipeline.setLanguage name)
    return (pipeline, some name)

def treeOf (model : ModelId) : Act Host ClassTree := do
  match ← Act.look (·.models[model]?) with
  | none => return {}
  | some m => return { roots := ← Act.ofExcept (TreeNode.ofModel m) }

def assemble (source : Path) (temp : Option Path) (model : ModelId) (o : OpenOptions) :
    Act Host (Session × Option String) := do
  let (pipeline, language) ← makePipeline o
  let tree ← treeOf model
  let ((), pipeline) ← Act.carrying pipeline (Pipeline.setModel (some model))
  return ({ source, model, temp, pipeline, tree }, language)

def openSource (source : Path) (bytecode : BytecodeSource) (parser : Parser) (o : OpenOptions) :
    Act Host Session := do
  match ← Act.attempt (BytecodeSource.parse parser bytecode.path) with
  | .error f =>
    let _ ← BytecodeSource.removeTemp bytecode.temp
    throw (parseFailure source f)
  | .ok model =>
    match ← Act.attempt (assemble source bytecode.temp model o) with
    | .error f =>
      Host.disposeModel model
      let _ ← BytecodeSource.removeTemp bytecode.temp
      throw f
    | .ok (session, language) =>
      Host.record channel .info
        ("Opened " ++ source.text ++ " (" ++ language.getD "no renderer" ++ ")")
      return session

def inFileContext {α : Type} (source : Path) (a : Act Host α) : Act Host α :=
  let hosted : HostedAct Unit α := Host.inContext [("file", some source.name)] (Act.onHost a)
  hosted.within (fun h => ((), h)) fun s _ => s.2

def «open» (source : Path) (parser : Parser) (o : OpenOptions) : Act Host Session :=
  inFileContext source do
    let bytecode ← BytecodeSource.locate source
    openSource source bytecode parser o

def release : HostedAct Session Unit := do
  onPipeline (Pipeline.setModel none)
  let s ← Act.own
  Act.onHost (Host.disposeModel s.model)

/-- Closes a session; closing it again does nothing. -/
def close : HostedAct Session Unit := do
  let s ← Act.own
  if s.closed then return
  Act.setOwn fun s => { s with closed := true }
  Host.inContext [("file", some s.source.name)] do
    release.ensuring do
      let _ ← Act.onHost (BytecodeSource.removeTemp s.temp)
      Act.onHost (Host.record channel .debug ("Closed session for " ++ s.source.text))

def use {α : Type} (a : HostedAct Session α) : HostedAct Session α :=
  a.ensuring close

end Session

end BytecodeViewer
