import BytecodeViewer.Bytecode.ClassDef
import BytecodeViewer.Failure

/-!
# Models

A model is what a parser makes of a container: a list of class names and the
classes that can be looked up.  It can be disposed, after which it holds nothing
and look-ups fail.
-/

namespace BytecodeViewer

structure Model where
  /-- The names that are listed. -/
  names : List String
  classes : List (String × ClassDef)
  deriving DecidableEq, Repr

/-- Replaces the value of a key in its place, or adds the key at the end. -/
def insertKey {α : Type} (key : String) (value : α) : List (String × α) → List (String × α)
  | [] => [(key, value)]
  | (k, v) :: rest => if k = key then (k, value) :: rest else (k, v) :: insertKey key value rest

namespace Model

/-- A model of classes by their names.  Of several classes of one name the last
counts, in the place of the first. -/
def ofClasses (classes : List ClassDef) : Model :=
  let table := classes.foldl (fun acc c => insertKey c.name c acc) []
  ⟨table.map (·.1), table⟩

def class? (m : Model) (name : String) : Option ClassDef :=
  m.classes.lookup name

end Model

/-- A model in use: how often it has been disposed, and what goes wrong then.  A model
that reads its container only when it is asked may fail to list names or to look up
classes. -/
structure LoadedModel where
  model : Model
  listing : Except Failure (List String) := .ok model.names
  answer : String → Except Failure (Option ClassDef) := fun name => .ok (model.class? name)
  disposals : Nat := 0
  disposeFailure : Option Failure := none

namespace LoadedModel

def isDisposed (m : LoadedModel) : Bool :=
  m.disposals != 0

/-- The names that are listed; a disposed model lists none. -/
def names (m : LoadedModel) : Except Failure (List String) :=
  if m.isDisposed then .ok [] else m.listing

def size (m : LoadedModel) : Nat :=
  if m.isDisposed then 0 else m.model.classes.length

def class? (m : LoadedModel) (name : String) : Except Failure (Option ClassDef) :=
  if m.isDisposed then .error .modelDisposed else m.answer name

/-- The key of the method that a text means in a class: a key stands for itself, and so
does a name that no method has. -/
def methodKey (m : LoadedModel) (classRef method : String) : Except Failure String := do
  match ← m.class? classRef with
  | none => return method
  | some c =>
    if '(' ∈ method.toList then return method
    match (c.methods.filter (·.name == method)).map (·.key) with
    | [] => return method
    | [key] => return key
    | keys => throw (.ambiguousMethod classRef method keys)

/-- Disposing again changes nothing but the count. -/
def dispose (m : LoadedModel) : LoadedModel :=
  { m with disposals := m.disposals + 1 }

end LoadedModel

end BytecodeViewer
