import BytecodeViewer.Bytecode.Model
import BytecodeViewer.Highlight
import BytecodeViewer.Render.Dex
import BytecodeViewer.Render.Dex.Rules
import BytecodeViewer.Render.Java
import BytecodeViewer.Render.Java.Rules

/-!
# Renderers

A language says how classes and methods are written and coloured.  A renderer
writes one language for the model that it is bound to, and remembers the classes
that it has looked up; binding it anew forgets them.
-/

namespace BytecodeViewer

/-- How a language writes classes and methods: as lines from their definitions, or
as a text from their references and the bound model, looking them up as it likes. -/
inductive Writer where
  | lines
      (classLines : ClassDef → Sections → Except Failure (List String))
      (methodLines : ClassDef → Method → Int → Bool → Except Failure (List String))
  | texts
      (classText : Option LoadedModel → String → Sections → Except Failure String)
      (methodText : Option LoadedModel → String → String → Int → Bool → Except Failure String)

/-- How binding a renderer to a model fails. -/
structure BindFault where
  failure : Failure
  /-- Whether the renderer has taken the model before it fails. -/
  takesModel : Bool := false

structure Language where
  name : String
  /-- The name of the type that implements the language. -/
  typeName : String
  rules : List HighlightRule
  writer : Writer
  /-- Why a renderer that holds one model cannot be bound to another one.  Either of them may
  be missing. -/
  bindFault? : Option LoadedModel → Option LoadedModel → Option BindFault := fun _ _ => none
  /-- Why a renderer that is bound to a model, or unbound, does not give its rules. -/
  rulesFault? : Option LoadedModel → Option Failure := fun _ => none

namespace Language

def java : Language where
  name := "Java"
  typeName := "JavaRenderer"
  rules := Java.rules
  writer := .lines (fun c o => .ok (Java.classLines c o))
    fun c m level standalone => .ok (Java.methodLines c m level standalone)

def dex : Language where
  name := "Dex"
  typeName := "DexRenderer"
  rules := Dex.rules
  writer := .lines (fun c o => .ok (Dex.classLines c o))
    fun c m level standalone => .ok (Dex.methodLines c m level standalone)

/-- The languages that need no plug-in, in the order in which they are offered. -/
def builtin : List Language := [java, dex]

end Language

/-- Models are referred to by their number. -/
abbrev ModelId := Nat

structure Renderer where
  language : Language
  bound : Option ModelId := none
  known : List (String × ClassDef) := []

namespace Renderer

/-- Whether a model is bound; a language that writes texts does not say. -/
def isBound? (r : Renderer) : Option Bool :=
  match r.language.writer with
  | .lines .. => some r.bound.isSome
  | .texts .. => none

def bind (r : Renderer) (model : Option ModelId) : Renderer :=
  { r with bound := model, known := [] }

/-- Binds a renderer, which holds a model, to another one. -/
def tryBind (r : Renderer) (held : Option LoadedModel) (id : Option ModelId)
    (model : Option LoadedModel) : Except Failure Unit × Renderer :=
  match r.language.bindFault? held model with
  | none => (.ok (), r.bind id)
  | some fault => (.error fault.failure, if fault.takesModel then r.bind id else r)

def rules (r : Renderer) (model : Option LoadedModel) : Except Failure (List HighlightRule) :=
  match r.language.rulesFault? model with
  | none => .ok r.language.rules
  | some f => .error f

/-- Looks a class up in the bound model, unless it is known already. -/
def resolveClass (r : Renderer) (model : Option LoadedModel) (ref : String) :
    Except Failure ClassDef × Renderer :=
  match model with
  | none => (.error (.unboundRenderer r.language.name), r)
  | some m =>
    match r.known.lookup ref with
    | some c => (.ok c, r)
    | none =>
      match m.class? ref with
      | .error f => (.error f, r)
      | .ok none => (.error (.noClass ref r.language.name), r)
      | .ok (some c) => (.ok c, { r with known := (ref, c) :: r.known })

def resolveMethod (r : Renderer) (model : Option LoadedModel) (ref methodRef : String) :
    Except Failure (ClassDef × Method) × Renderer :=
  match r.resolveClass model ref with
  | (.error f, r') => (.error f, r')
  | (.ok c, r') =>
    match c.findMethod? methodRef with
    | some m => (.ok (c, m), r')
    | none => (.error (.noMethod ref methodRef r.language.name), r')

def renderClass (r : Renderer) (model : Option LoadedModel) (ref : String) (o : Sections) :
    Except Failure String × Renderer :=
  match r.language.writer with
  | .texts classText _ => (classText model ref o, r)
  | .lines classLines _ =>
    match r.resolveClass model ref with
    | (.error f, r') => (.error f, r')
    | (.ok c, r') => ((classLines c o).map joinLines, r')

def renderMethod (r : Renderer) (model : Option LoadedModel) (ref methodRef : String)
    (level : Int) (standalone : Bool) : Except Failure String × Renderer :=
  match r.language.writer with
  | .texts _ methodText => (methodText model ref methodRef level standalone, r)
  | .lines _ methodLines =>
    match r.resolveMethod model ref methodRef with
    | (.error f, r') => (.error f, r')
    | (.ok (c, m), r') => ((methodLines c m level standalone).map joinLines, r')

end Renderer

end BytecodeViewer
