import BytecodeViewer.Yaml.Layout
import BytecodeViewer.Yaml.Tag

/-!
# The graph of a document

A document is a graph: an alias is the very node that carries the anchor, which
may hold the alias itself.  Nodes are referred to by their number.
-/

namespace BytecodeViewer

namespace Yaml

abbrev NodeId := Nat

inductive Content where
  | scalar (text : String)
  | sequence (items : List NodeId)
  | mapping (entries : List (NodeId × NodeId))
  deriving DecidableEq, Repr

structure Node where
  tag : Tag
  content : Content
  deriving DecidableEq, Repr

abbrev Graph := Array Node

/-- The state of reading nodes from tokens. -/
structure Composer where
  rest : List Token
  /-- Why the tokens end, if they are cut short. -/
  fault : Option Fault := none
  nodes : Graph := #[]
  anchors : List (String × NodeId) := []
  handles : List (String × String) := []

abbrev Compose := StateT Composer (Except Fault)

namespace Compose

def malformed {α : Type} : Compose α :=
  throw .malformed

def peek : Compose Token := do
  let c ← get
  match c.rest with
  | t :: _ => return t
  | [] => throw (c.fault.getD .malformed)

def skip : Compose Unit :=
  modify fun c => { c with rest := c.rest.drop 1 }

def take? (t : Token) : Compose Bool := do
  if (← peek) == t then
    skip
    return true
  else return false

def addNode (n : Node) : Compose NodeId := do
  let c ← get
  set { c with nodes := c.nodes.push n }
  return c.nodes.size

def setContent (id : NodeId) (content : Content) : Compose Unit :=
  modify fun c => { c with nodes := c.nodes.modify id fun n => { n with content } }

def emptyNode : Compose NodeId :=
  addNode ⟨.null, .scalar ""⟩

def noteAnchor (anchor : Option String) (id : NodeId) : Compose Unit := do
  if let some name := anchor then
    modify fun c => { c with anchors := (name, id) :: c.anchors }

def checkAnchor (anchor : Option String) : Compose Unit := do
  if let some name := anchor then
    if ((← get).anchors.lookup name).isSome then malformed

/-- A tag in full; a lone sign is no tag but asks for the usual one. -/
def fullTag (t : WrittenTag) : Compose String := do
  match t.handle with
  | none => return t.suffix
  | some handle =>
    match (← get).handles.lookup handle with
    | some meaning => return meaning ++ t.suffix
    | none => malformed

def properties : Compose (Option String × Option String) := do
  match ← peek with
  | .anchor name =>
    skip
    match ← peek with
    | .tag t =>
      skip
      return (some name, some (← fullTag t))
    | _ => return (some name, none)
  | .tag t =>
    skip
    match ← peek with
    | .anchor name =>
      skip
      return (some name, some (← fullTag t))
    | _ => return (none, some (← fullTag t))
  | _ => return (none, none)

def scalarTag (tag : Option String) (text : String) (isPlain : Bool) : Tag :=
  match tag with
  | none => if isPlain then .ofPlain text else .text
  | some "!" => .ofPlain text
  | some t => .ofText t

def collectionTag (tag : Option String) (usual : Tag) : Tag :=
  match tag with
  | none | some "!" => usual
  | some t => .ofText t

/-- Where a node stands: inside of brackets, in a block, or in a block where the entries
of a sequence need no indentation. -/
inductive Place where
  | flow
  | block
  | value
  deriving DecidableEq

/-- A collection is in the graph before its members are. -/
def collection (anchor : Option String) (tag : Tag) (members : Compose Content) :
    Compose NodeId := do
  let id ← addNode ⟨tag, .sequence []⟩
  noteAnchor anchor id
  setContent id (← members)
  return id

mutual

/-- A node; `fuel` bounds the tokens to come. -/
def node : Nat → Place → Compose NodeId
  | 0, _ => malformed
  | fuel + 1, place => do
    if let .alias name := ← peek then
      skip
      match (← get).anchors.lookup name with
      | some id => return id
      | none => malformed
    let (anchor, tag) ← properties
    let t ← peek
    let inBlock := place != .flow
    if place == .value && t == .blockEntry then
      checkAnchor anchor
      collection anchor (collectionTag tag .sequence) (looseEntries fuel [])
    else
      match t with
      | .scalar text isPlain =>
        skip
        checkAnchor anchor
        let id ← addNode ⟨scalarTag tag text isPlain, .scalar text⟩
        noteAnchor anchor id
        return id
      | .flowSequenceStart =>
        skip
        checkAnchor anchor
        collection anchor (collectionTag tag .sequence) (flowItems fuel true [])
      | .flowMappingStart =>
        skip
        checkAnchor anchor
        collection anchor (collectionTag tag .mapping) (flowPairs fuel true [])
      | _ =>
        if inBlock && t == .blockSequenceStart then
          skip
          checkAnchor anchor
          collection anchor (collectionTag tag .sequence) (blockEntries fuel [])
        else if inBlock && t == .blockMappingStart then
          skip
          checkAnchor anchor
          collection anchor (collectionTag tag .mapping) (blockPairs fuel [])
        else if anchor.isSome || tag.isSome then
          checkAnchor anchor
          let isPlain := tag.isNone || tag == some "!"
          let id ← addNode ⟨scalarTag tag "" isPlain, .scalar ""⟩
          noteAnchor anchor id
          return id
        else malformed

def nodeUnless : Nat → Place → List Token → Compose NodeId
  | 0, _, _ => malformed
  | fuel + 1, place, stops => do
    if stops.contains (← peek) then emptyNode else node fuel place

def blockEntries : Nat → List NodeId → Compose Content
  | 0, _ => malformed
  | fuel + 1, found => do
    if ← take? .blockEntry then
      let id ← nodeUnless fuel .block [.blockEntry, .blockEnd]
      blockEntries fuel (found ++ [id])
    else if ← take? .blockEnd then return .sequence found
    else malformed

def looseEntries : Nat → List NodeId → Compose Content
  | 0, _ => malformed
  | fuel + 1, found => do
    if ← take? .blockEntry then
      let id ← nodeUnless fuel .block [.blockEntry, .key, .value, .blockEnd]
      looseEntries fuel (found ++ [id])
    else return .sequence found

def valueUnless : Nat → Place → List Token → Compose NodeId
  | 0, _, _ => malformed
  | fuel + 1, place, stops => do
    if ← take? .value then nodeUnless fuel place stops else emptyNode

def blockPairs : Nat → List (NodeId × NodeId) → Compose Content
  | 0, _ => malformed
  | fuel + 1, found => do
    let stops : List Token := [.key, .value, .blockEnd]
    if ← take? .key then
      let k ← nodeUnless fuel .value stops
      let v ← valueUnless fuel .value stops
      blockPairs fuel (found ++ [(k, v)])
    else if ← take? .blockEnd then return .mapping found
    else malformed

/-- The items of a sequence in brackets; an item with a colon is a mapping of one pair. -/
def flowItems : Nat → Bool → List NodeId → Compose Content
  | 0, _, _ => malformed
  | fuel + 1, isFirst, found => do
    if ← take? .flowSequenceEnd then return .sequence found
    unless isFirst do
      unless ← take? .flowEntry do
        malformed
    if ← take? .key then
      let pair : Compose Content := do
        let k ← nodeUnless fuel .flow [.value, .flowEntry, .flowSequenceEnd]
        let v ← valueUnless fuel .flow [.flowEntry, .flowSequenceEnd]
        return .mapping [(k, v)]
      let id ← collection none .mapping pair
      flowItems fuel false (found ++ [id])
    else if ← take? .flowSequenceEnd then return .sequence found
    else
      let id ← node fuel .flow
      flowItems fuel false (found ++ [id])

/-- The pairs of a mapping in brackets; a key may stand alone. -/
def flowPairs : Nat → Bool → List (NodeId × NodeId) → Compose Content
  | 0, _, _ => malformed
  | fuel + 1, isFirst, found => do
    if ← take? .flowMappingEnd then return .mapping found
    unless isFirst do
      unless ← take? .flowEntry do
        malformed
    if ← take? .key then
      let k ← nodeUnless fuel .flow [.value, .flowEntry, .flowMappingEnd]
      let v ← valueUnless fuel .flow [.flowEntry, .flowMappingEnd]
      flowPairs fuel false (found ++ [(k, v)])
    else if ← take? .flowMappingEnd then return .mapping found
    else
      let k ← node fuel .flow
      let v ← emptyNode
      flowPairs fuel false (found ++ [(k, v)])

end

/-! ## Documents -/

def usualHandles : List (String × String) :=
  [("!", "!"), ("!!", Tag.core)]

def directives : Nat → Bool → List (String × String) → Compose Unit
  | 0, _, _ => malformed
  | fuel + 1, hasVersion, handles => do
    match ← peek with
    | .directive (.version major) =>
      skip
      if hasVersion || major != 1 then malformed
      directives fuel true handles
    | .directive (.handle name meaning) =>
      skip
      if (handles.lookup name).isSome then malformed
      directives fuel hasVersion ((name, meaning) :: handles)
    | .directive .other =>
      skip
      directives fuel hasVersion handles
    | _ => modify fun c => { c with handles := handles ++ usualHandles }

def skipDocumentEnds : Nat → Compose Unit
  | 0 => return
  | fuel + 1 => do
    if ← take? .documentEnd then skipDocumentEnds fuel

def beginsContent : Token → Bool
  | .directive _ | .documentStart | .documentEnd | .streamEnd => false
  | _ => true

def explicitDocument (fuel : Nat) : Compose (Option NodeId) := do
  skipDocumentEnds fuel
  if (← peek) == .streamEnd then return none
  directives fuel false []
  unless ← take? .documentStart do
    malformed
  if beginsContent (← peek) then return some (← node fuel .block)
  else return some (← emptyNode)

def onlyDocument (fuel : Nat) : Compose (Option NodeId) := do
  let root ← match ← peek with
    | .directive _ | .documentStart | .streamEnd => explicitDocument fuel
    | _ => do
      modify fun c => { c with handles := usualHandles }
      pure (some (← node fuel .block))
  skipDocumentEnds fuel
  if (← peek) == .streamEnd then return root
  malformed

end Compose

/-- The graph of a text and its root, if the text holds a document. -/
def graphOf (text : List Char) : Except Fault (Graph × Option NodeId) := do
  let (found, fault) := tokens text
  let composer : Composer := { rest := found.toList, fault }
  let (root, c) ← (Compose.onlyDocument (4 * found.size + 8)).run composer
  return (c.nodes, root)

end Yaml

end BytecodeViewer
