import BytecodeViewer.Yaml.Graph

/-!
# Merged mappings

A mapping may take over the entries of others under a merge key.  Its own entries
come last, so that they win.
-/

namespace BytecodeViewer

namespace Yaml

namespace Graph

def tagOf (g : Graph) (id : NodeId) : Tag :=
  match g[id]? with
  | some n => n.tag
  | none => .null

def contentOf (g : Graph) (id : NodeId) : Content :=
  match g[id]? with
  | some n => n.content
  | none => .scalar ""

def isMerge (g : Graph) (entry : NodeId × NodeId) : Bool :=
  g.tagOf entry.1 == .merge

def ownEntries (g : Graph) (id : NodeId) : List (NodeId × NodeId) :=
  match g.contentOf id with
  | .mapping entries => entries.filter (!g.isMerge ·)
  | _ => []

/-- The nodes that a mapping takes entries from: of those in one list, the first has the
last word. -/
def mergeSources (g : Graph) (id : NodeId) : List NodeId :=
  match g.contentOf id with
  | .mapping entries =>
    (entries.filter g.isMerge).flatMap fun (_, v) =>
      match g.contentOf v with
      | .sequence items => items.reverse
      | _ => [v]
  | _ => []

def isMapping (g : Graph) (id : NodeId) : Bool :=
  match g.contentOf id with
  | .mapping _ => true
  | _ => false

/-- The entries of a mapping with those that it takes over.  A mapping inside of which
this one is merged adds only its own entries; `fuel` bounds the depth. -/
def entriesWithin (g : Graph) : Nat → List NodeId → NodeId → Except Fault (List (NodeId × NodeId))
  | 0, _, id => .ok (g.ownEntries id)
  | fuel + 1, around, id => do
    let sources := g.mergeSources id
    unless sources.all g.isMapping do
      throw .malformed
    let taken ← sources.mapM fun source =>
      if (id :: around).contains source then .ok (g.ownEntries source)
      else g.entriesWithin fuel (id :: around) source
    return taken.flatten ++ g.ownEntries id

def entries (g : Graph) (id : NodeId) : Except Fault (List (NodeId × NodeId)) :=
  g.entriesWithin g.size [] id

end Graph

end Yaml

end BytecodeViewer
