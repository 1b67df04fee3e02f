import BytecodeViewer.Failure
import BytecodeViewer.Text.Case

/-!
# Sections of a class view

A class is shown in five sections that can be switched on and off one by one.
-/

namespace BytecodeViewer

inductive Section where
  | annotations
  | name
  | details
  | fields
  | methods
  deriving DecidableEq, Repr

namespace Section

def all : List Section := [annotations, name, details, fields, methods]

def label : Section → String
  | annotations => "ANNOTATIONS"
  | name => "NAME"
  | details => "DETAILS"
  | fields => "FIELDS"
  | methods => "METHODS"

/-- The value of a section in a set of sections that is written as a number. -/
def value : Section → Nat
  | annotations => 1
  | name => 2
  | details => 4
  | fields => 8
  | methods => 16

end Section

/-- A set of sections. -/
structure Sections where
  annotations : Bool := false
  name : Bool := false
  details : Bool := false
  fields : Bool := false
  methods : Bool := false
  deriving DecidableEq, Repr

namespace Sections

def none : Sections := {}

/-- What is shown unless something else is asked for: all but the methods. -/
def standard : Sections :=
  { annotations := true, name := true, details := true, fields := true }

def all : Sections :=
  { standard with methods := true }

def has (o : Sections) : Section → Bool
  | .annotations => o.annotations
  | .name => o.name
  | .details => o.details
  | .fields => o.fields
  | .methods => o.methods

def ofSection : Section → Sections
  | .annotations => { annotations := true }
  | .name => { name := true }
  | .details => { details := true }
  | .fields => { fields := true }
  | .methods => { methods := true }

def union (a b : Sections) : Sections where
  annotations := a.annotations || b.annotations
  name := a.name || b.name
  details := a.details || b.details
  fields := a.fields || b.fields
  methods := a.methods || b.methods

def without (a b : Sections) : Sections where
  annotations := a.annotations && !b.annotations
  name := a.name && !b.name
  details := a.details && !b.details
  fields := a.fields && !b.fields
  methods := a.methods && !b.methods

def toList (o : Sections) : List Section :=
  Section.all.filter o.has

def value (o : Sections) : Nat :=
  o.toList.foldr (fun s total => s.value + total) 0

/-- The sets that have a name in capitals: single sections, none, the standard set
and all of them. -/
def named : List (String × Sections) :=
  Section.all.map (fun s => (s.label, ofSection s)) ++
    [("NONE", none), ("DEFAULT", standard), ("ALL", all)]

def ofName? (name : String) : Option Sections :=
  named.lookup (Text.upper name)

/-- The union of the named sets; it fails for the first name that is unknown. -/
def ofNames : List String → Except Failure Sections
  | [] => .ok none
  | name :: names =>
    match ofName? name with
    | some set => (ofNames names).map set.union
    | Option.none => .error (.unknownSection name)

def toggle (o set : Sections) : Option Bool → Sections
  | some true => o.union set
  | some false => o.without set
  | Option.none => o

def toggleAll (o : Sections) (switches : List (Sections × Option Bool)) : Sections :=
  switches.foldl (fun acc (set, on) => acc.toggle set on) o

end Sections

end BytecodeViewer
