import BytecodeViewer.Host.Files
import BytecodeViewer.Host.Log
import BytecodeViewer.Render.Renderer

/-!
# The host

What all sessions share: the files, the models that have been loaded, the
renderers, the plug-ins that are installed, and the log.
-/

namespace BytecodeViewer

/-- Renderers are referred to by their number. -/
abbrev RendererId := Nat

/-- A parser reads the bytes of a container into a model. -/
structure Parser where
  label : String
  typeName : String
  parse : Bytes → Except Failure LoadedModel

/-- What loading a plug-in gives. -/
inductive Published where
  /-- A kind of renderers; each loading makes one. -/
  | language (l : Language)
  /-- A renderer that is shared by all who load it. -/
  | renderer (id : RendererId)
  | parser (p : Parser)
  /-- Making the object fails. -/
  | broken (f : Failure)
  | other (typeName : String)

inductive PluginGroup where
  | renderers
  | parsers
  deriving DecidableEq, Repr

def PluginGroup.name : PluginGroup → String
  | renderers => "dex_viewer.renderers"
  | parsers => Failure.parserGroup

/-- An installed plug-in, known by its name until it is loaded. -/
structure EntryPoint where
  /-- Its place among all entry points. -/
  place : Nat
  group : PluginGroup
  name : String
  load : Except Failure Published

structure Host where
  files : Files := {}
  environment : List (String × String) := []
  /-- How many temporary files have been made. -/
  tempCount : Nat := 0
  models : List LoadedModel := []
  renderers : List Renderer := []
  /-- The installed plug-ins, or why they cannot be listed. -/
  plugins : Except Failure (List EntryPoint) := .ok []
  /-- The entry points that have been loaded, by their places. -/
  loaded : List Nat := []
  /-- What parsers have been given, with the labels of the parsers. -/
  parsed : List (String × Bytes) := []
  log : Log := {}
  /-- The users that the system knows, with their home directories.  The first one is who
  runs this. -/
  users : List (String × String) := [("root", "/root")]

namespace Host

/-- A variable of the environment that is set to a text that is not empty. -/
def environmentText? (h : Host) (name : String) : Option String :=
  (h.environment.lookup name).filter (· != "")

def model? (h : Host) (id : Option ModelId) : Option LoadedModel :=
  id.bind (h.models[·]?)

def renderer? (h : Host) (id : RendererId) : Option Renderer :=
  h.renderers[id]?

def setRenderer (h : Host) (id : RendererId) (r : Renderer) : Host :=
  { h with renderers := h.renderers.set id r }

def addRenderer (h : Host) (l : Language) : Host :=
  { h with renderers := h.renderers ++ [{ language := l }] }

def setModel (h : Host) (id : ModelId) (m : LoadedModel) : Host :=
  { h with models := h.models.set id m }

def addModel (h : Host) (m : LoadedModel) : Host :=
  { h with models := h.models ++ [m] }

end Host

abbrev HostedAct (τ : Type) := Act (τ × Host)

namespace Act

variable {τ υ α : Type}

def onHost (a : Act Host α) : HostedAct τ α :=
  a.within Prod.snd fun h s => (s.1, h)

def onPart (part : τ → υ) (put : υ → τ → τ) (a : HostedAct υ α) : HostedAct τ α :=
  a.within (fun s => (part s.1, s.2)) fun s' s => (put s'.1 s.1, s'.2)

/-- Runs an act of something that the host carries for this time only, and gives what
has become of it. -/
def carrying (v : τ) (a : HostedAct τ α) : Act Host (α × τ) :=
  ofFunction fun h =>
    let (outcome, (v', h')) := a.on (v, h)
    (outcome.map fun x => (x, v'), h')

def own : HostedAct τ τ :=
  look Prod.fst

def setOwn (f : τ → τ) : HostedAct τ Unit :=
  change fun s => (f s.1, s.2)

@[simp] theorem on_onHost (a : Act Host α) (s : τ × Host) :
    (onHost a : HostedAct τ α).on s = ((a.on s.2).1, s.1, (a.on s.2).2) := rfl

@[simp] theorem on_onPart (part : τ → υ) (put : υ → τ → τ) (a : HostedAct υ α) (s : τ × Host) :
    (a.onPart part put).on s = ((a.on (part s.1, s.2)).1,
      put (a.on (part s.1, s.2)).2.1 s.1, (a.on (part s.1, s.2)).2.2) := rfl

@[simp] theorem on_carrying (v : τ) (a : HostedAct τ α) (h : Host) :
    (carrying v a).on h =
      ((a.on (v, h)).1.map fun x => (x, (a.on (v, h)).2.1), (a.on (v, h)).2.2) := rfl

@[simp] theorem on_own (s : τ × Host) : (own : HostedAct τ τ).on s = (.ok s.1, s) := rfl

@[simp] theorem on_setOwn (f : τ → τ) (s : τ × Host) :
    (setOwn f).on s = (.ok (), f s.1, s.2) := rfl

end Act

namespace Host

def record (channel : String) (level : LogLevel) (message : String) (withTrace : Bool := false) :
    Act Host Unit :=
  .change fun h => { h with log := h.log.add channel level message withTrace }

def inContext {τ α : Type} (values : List (String × Option String)) (a : HostedAct τ α) :
    HostedAct τ α :=
  .ofFunction fun s =>
    let outer := s.2.log.bound
    let inner := { s.2 with log := s.2.log.bind (Log.present values) }
    let (outcome, s') := a.on (s.1, inner)
    (outcome, s'.1, { s'.2 with log := { s'.2.log with bound := outer } })

def newRenderer (l : Language) : Act Host RendererId :=
  .ofFunction fun h => (.ok h.renderers.length, h.addRenderer l)

def newRenderers : List Language → Act Host (List RendererId)
  | [] => return []
  | l :: ls => do
    let id ← newRenderer l
    return id :: (← newRenderers ls)

def bindRenderer (id : RendererId) (model : Option ModelId) : Act Host Unit :=
  .ofFunction fun h =>
    match h.renderer? id with
    | some r =>
      let (outcome, r') := r.tryBind (h.model? r.bound) model (h.model? model)
      (outcome, h.setRenderer id r')
    | none => (.ok (), h)

def rulesOf (id : RendererId) : Act Host (List HighlightRule) :=
  .ofFunction fun h =>
    match h.renderer? id with
    | some r => (r.rules (h.model? r.bound), h)
    | none => (.ok [], h)

def useRenderer {α : Type} (id : RendererId)
    (work : Renderer → Option LoadedModel → Except Failure α × Renderer) : Act Host α :=
  .ofFunction fun h =>
    match h.renderer? id with
    | some r =>
      let (outcome, r') := work r (h.model? r.bound)
      (outcome, h.setRenderer id r')
    | none => (.error (.unboundRenderer ""), h)

def keepModel (m : LoadedModel) : Act Host ModelId :=
  .ofFunction fun h => (.ok h.models.length, h.addModel m)

def disposeModel (id : ModelId) : Act Host Unit :=
  .ofFunction fun h =>
    match h.models[id]? with
    | some m =>
      (match m.disposeFailure with
        | some f => .error f
        | none => .ok (), h.setModel id m.dispose)
    | none => (.ok (), h)

end Host

end BytecodeViewer
