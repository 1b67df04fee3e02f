import BytecodeViewer.Plugin.Discovery
import BytecodeViewer.Text.Blank

/-!
# The registry of renderers

Renderers by the names of their languages, in the order in which the names were
first taken.  Plug-ins wait under their names and are loaded when they are first
asked for.
-/

namespace BytecodeViewer

structure Registry where
  renderers : List (String × RendererId) := []
  pending : List EntryPoint := []

/-- An object that is offered as a renderer. -/
inductive Candidate where
  | renderer (id : RendererId)
  | other (typeName : String)
  deriving DecidableEq, Repr

namespace Registry

def channel : String := "dv_renderers.registry"

def names (r : Registry) : List String :=
  r.renderers.map (·.1)

def size (r : Registry) : Nat :=
  r.renderers.length

def renderer? (r : Registry) (name : String) : Option RendererId :=
  r.renderers.lookup name

def pending? (r : Registry) (name : String) : Option EntryPoint :=
  r.pending.find? (·.name == name)

def contains (r : Registry) (name : String) : Bool :=
  (r.renderer? name).isSome || (r.pending? name).isSome

/-- Puts a renderer under a name; the name keeps its place and no longer waits. -/
def put (r : Registry) (name : String) (id : RendererId) : Registry where
  renderers := insertKey name id r.renderers
  pending := r.pending.filter (·.name != name)

def dropPending (r : Registry) (name : String) : Registry :=
  { r with pending := r.pending.filter (·.name != name) }

/-- Registers a renderer under a name that is a text and not blank. -/
def register (name : Option String) (candidate : Candidate) : HostedAct Registry Unit := do
  let some name := name.filter (!Text.isAllBlank ·) | throw .badRendererName
  match candidate with
  | .other typeName => throw (.notRenderer typeName)
  | .renderer id =>
    let r ← Act.own
    if (r.renderer? name).isSome then
      Act.onHost (Host.record channel .debug ("Replacing renderer " ++ name))
    Act.setOwn (·.put name id)

/-- Registers what a plug-in gives, under the name of its entry point. -/
def registerPublished (name : String) (published : Published) : HostedAct Registry Unit :=
  match published with
  | .language l => do
    let id ← Act.onHost (Host.newRenderer l)
    register (some name) (.renderer id)
  | .renderer id => register (some name) (.renderer id)
  | .parser p => register (some name) (.other p.typeName)
  | .other typeName => register (some name) (.other typeName)
  | .broken f => throw f

/-- Loads the plug-in that waits under a name, if there is one.  It does not wait any
longer, whether it can be loaded or not. -/
def loadPending (name : String) : HostedAct Registry Unit := do
  match (← Act.own).pending? name with
  | none => return
  | some e =>
    Act.setOwn (·.dropPending name)
    let _ ← Discovery.load e "renderer entry point" (registerPublished e.name)

def loadEach : List String → HostedAct Registry Unit
  | [] => return
  | name :: names => do
    loadPending name
    loadEach names

def loadAll : HostedAct Registry Unit := do
  loadEach ((← Act.own).pending.map (·.name))

def loadedNames : HostedAct Registry (List String) := do
  loadAll
  return (← Act.own).names

def resolve (name : String) : HostedAct Registry RendererId := do
  let r ← Act.own
  if (r.renderer? name).isNone && (r.pending? name).isSome then
    loadPending name
  let r ← Act.own
  match r.renderer? name with
  | some id => return id
  | none => throw (.noRenderer name r.names)

def registerOwn : List (String × Candidate) → HostedAct Registry Unit
  | [] => return
  | (name, candidate) :: rest => do
    register (some name) candidate
    registerOwn rest

def discover : HostedAct Registry Unit := do
  let found ← Act.onHost (Discovery.pending .renderers)
  Act.setOwn fun r =>
    { r with pending := r.pending ++ found.filter fun e => (r.renderer? e.name).isNone }

def make (candidates : List (String × Candidate)) (withPlugins : Bool) : Act Host Registry := do
  let filling : HostedAct Registry Unit := do
    registerOwn candidates
    if withPlugins then discover
  let ((), r) ← Act.carrying {} filling
  return r

/-- A registry with renderers of its own for the languages that need no plug-in. -/
def builtin (withPlugins : Bool) : Act Host Registry := do
  let ids ← Host.newRenderers Language.builtin
  let names := Language.builtin.map (·.name)
  make (names.zip (ids.map .renderer)) withPlugins

/-- The preferred language if it is available, else the first one. -/
def pickLanguage (preferred : Option String) : HostedAct Registry (Option String) := do
  let r ← Act.own
  match preferred.filter (· != "") with
  | none => return r.names.head?
  | some name =>
    if r.contains name then return some name
    let first := r.names.head?
    Act.onHost (Host.record "dv_core.session" .info
      ("Language " ++ name ++ " is not available; using " ++ first.getD "None"))
    return first

end Registry

end BytecodeViewer
