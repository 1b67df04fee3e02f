import BytecodeViewer.Yaml.Merge
import BytecodeViewer.Yaml.Value

/-!
# Documents

A document is a graph all of whose nodes denote something.  Nodes are looked at in
breadth, so that of several faults the first one in that order is told.
-/

namespace BytecodeViewer

namespace Yaml

/-- A value of a document; members of collections are referred to by their nodes. -/
inductive Value where
  | scalar (s : Scalar)
  | list (items : List NodeId)
  | set (items : List NodeId)
  | map (entries : List (NodeId × NodeId))
  /-- Pairs of keys and values in order. -/
  | pairs (count : Nat)

namespace Graph

/-- The text of a node that denotes a scalar.  A mapping may have one under its default
key; one that takes more steps to find than there are nodes is never found. -/
def scalarText (g : Graph) : Nat → NodeId → Except Fault String
  | 0, _ => .error (.value .endless)
  | fuel + 1, id =>
    match g.contentOf id with
    | .scalar text => .ok text
    | .mapping entries =>
      match entries.find? fun (k, _) => g.tagOf k == .defaultValue with
      | some (_, v) => g.scalarText fuel v
      | none => .error .malformed
    | .sequence _ => .error .malformed

/-- The tag of a key; the sign of the default key is a text. -/
def keyTag (g : Graph) (id : NodeId) : Tag :=
  if g.tagOf id = .defaultValue then .text else g.tagOf id

def scalarUnder (g : Graph) (tag : Tag) (id : NodeId) : Except Fault Scalar := do
  let text ← g.scalarText (g.size + 1) id
  if tag = .timestamp ∧ g.isMapping id then throw (.value .noDateText)
  Scalar.ofText tag text

def onlyEntry (g : Graph) (id : NodeId) : Except Fault (NodeId × NodeId) :=
  match g.contentOf id with
  | .mapping [entry] => .ok entry
  | _ => .error .malformed

def valueUnder (g : Graph) (tag : Tag) (id : NodeId) : Except Fault Value :=
  if tag.isScalar then (g.scalarUnder tag id).map .scalar
  else
    match tag, g.contentOf id with
    | .sequence, .sequence items => .ok (.list items)
    | .orderedMap, .sequence items | .pairs, .sequence items => do
      return .pairs (← items.mapM g.onlyEntry).length
    | .mapping, .mapping _ => (g.entries id).map .map
    | .set, .mapping _ => (g.entries id).map fun es => .set (es.map (·.1))
    | _, _ => .error .malformed

def value (g : Graph) (id : NodeId) : Except Fault Value :=
  g.valueUnder (g.tagOf id) id

def key (g : Graph) (id : NodeId) : Except Fault Value :=
  g.valueUnder (g.keyTag id) id

/-! ## Checking all nodes -/

/-- The nodes that have been looked at and those whose members come next. -/
structure Check where
  seen : List NodeId := []
  waiting : List NodeId := []

/-- Looks at a node: scalars are read at once, collections wait. -/
def visit (g : Graph) (tag : Tag) (id : NodeId) (c : Check) : Except Fault Check := do
  if c.seen.contains id then return c
  if tag.isScalar then
    let _ ← g.scalarUnder tag id
    return { c with seen := id :: c.seen }
  else if tag.isCollection then
    return ⟨id :: c.seen, c.waiting ++ [id]⟩
  else throw .malformed

def visitAll (g : Graph) : List NodeId → Check → Except Fault Check
  | [], c => .ok c
  | id :: ids, c => do g.visitAll ids (← g.visit (g.tagOf id) id c)

/-- Looks at keys and values; a collection is no key. -/
def visitEntries (g : Graph) : List (NodeId × NodeId) → Check → Except Fault Check
  | [], c => .ok c
  | (k, v) :: entries, c => do
    let c ← g.visit (g.keyTag k) k c
    if (g.keyTag k).isCollection then throw .malformed
    g.visitEntries entries (← g.visit (g.tagOf v) v c)

def visitPairs (g : Graph) : List NodeId → Check → Except Fault Check
  | [], c => .ok c
  | id :: ids, c => do
    let (k, v) ← g.onlyEntry id
    g.visitPairs ids (← g.visitAll [k, v] c)

def visitMembers (g : Graph) (id : NodeId) (c : Check) : Except Fault Check :=
  match g.tagOf id, g.contentOf id with
  | .sequence, .sequence items => g.visitAll items c
  | .orderedMap, .sequence items | .pairs, .sequence items => g.visitPairs items c
  | .mapping, .mapping _ | .set, .mapping _ => do g.visitEntries (← g.entries id) c
  | _, _ => .error .malformed

def visitWaiting (g : Graph) : Nat → Check → Except Fault Unit
  | 0, _ => .ok ()
  | fuel + 1, c =>
    match c.waiting with
    | [] => .ok ()
    | id :: waiting => do
      g.visitWaiting fuel (← g.visitMembers id { c with waiting })

def check (g : Graph) (root : NodeId) : Except Fault Unit := do
  g.visitWaiting (g.size + 1) (← g.visit (g.tagOf root) root {})

end Graph

structure Document where
  graph : Graph := #[]
  root : Option NodeId := none

namespace Document

def read (text : List Char) : Except Fault Document := do
  let (graph, root) ← graphOf text
  if let some id := root then
    graph.check id
  return { graph, root }

end Document

end Yaml

end BytecodeViewer
