import BytecodeViewer.Text.Case
import BytecodeViewer.Bytecode.Model
import BytecodeViewer.Session.Selection
import BytecodeViewer.Text.Parts

/-!
# The class tree

Classes are grouped by package, and methods stand below their classes.  A filter
keeps the classes and methods that hold a text, without regard to letter case.
-/

namespace BytecodeViewer

inductive NodeKind where
  | package
  | wholeClass
  | method
  deriving DecidableEq, Repr

namespace NodeKind

def name : NodeKind → String
  | package => "package"
  | wholeClass => "class"
  | method => "method"

def all : List NodeKind := [package, wholeClass, method]

def ofName? (name : String) : Option NodeKind :=
  all.find? (·.name == name)

end NodeKind

inductive TreeNode where
  | mk (kind : NodeKind) (label : String) (classRef methodRef : Option String)
      (children : List TreeNode)
  deriving Repr

namespace TreeNode

def kind : TreeNode → NodeKind
  | mk kind .. => kind

def label : TreeNode → String
  | mk _ label .. => label

def classRef : TreeNode → Option String
  | mk _ _ classRef .. => classRef

def methodRef : TreeNode → Option String
  | mk _ _ _ methodRef _ => methodRef

def children : TreeNode → List TreeNode
  | mk _ _ _ _ children => children

def withChildren : TreeNode → List TreeNode → TreeNode
  | mk kind label classRef methodRef _, children => mk kind label classRef methodRef children

/-- What a node selects.  Packages select nothing. -/
def selection? : TreeNode → Option Selection
  | mk .wholeClass _ (some c) _ _ => some (.wholeClass c)
  | mk .method _ (some c) (some m) _ => some (.method c m)
  | _ => none

mutual

def walk : TreeNode → List TreeNode
  | mk kind label classRef methodRef children =>
    mk kind label classRef methodRef children :: walkAll children

def walkAll : List TreeNode → List TreeNode
  | [] => []
  | n :: ns => n.walk ++ walkAll ns

end

/-- Whether a text in lower case occurs in another one without regard to case. -/
def matchesLower (needle text : String) : Bool :=
  Text.occursIn needle (Text.lower text)

/-- A class stays as it is if its name matches, else with the methods that match. -/
def filterClass (needle : String) (node : TreeNode) : Option TreeNode :=
  if matchesLower needle (node.classRef.getD "") then some node
  else
    let kept := node.children.filter fun child => matchesLower needle child.label
    if kept.isEmpty then none else some (node.withChildren kept)

/-- A package stays with the classes that stay, if there are any. -/
def filterPackage (needle : String) (node : TreeNode) : Option TreeNode :=
  let kept := node.children.filterMap (filterClass needle)
  if kept.isEmpty then none else some (node.withChildren kept)

/-- The nodes that match a text; the empty text keeps all. -/
def filterAll (nodes : List TreeNode) (text : String) : List TreeNode :=
  if text = "" then nodes else nodes.filterMap (filterPackage (Text.lower text))

@[simp] theorem filterAll_empty (nodes : List TreeNode) : filterAll nodes "" = nodes :=
  if_pos rfl

def ofMethod (c : ClassDef) (m : Method) : TreeNode :=
  mk .method m.key (some c.name) (some m.key) []

def ofClass (c : ClassDef) : TreeNode :=
  mk .wholeClass c.simpleName (some c.name) none (c.methods.map (ofMethod c))

def defaultPackage : String := "(default package)"

/-- The node of a package, with those of some classes that are in it. -/
def ofPackage (classes : List ClassDef) (package : String) : TreeNode :=
  mk .package (if package = "" then defaultPackage else package) none none
    ((classes.filter (·.package == package)).map ofClass)

def sortNames (names : List String) : List String :=
  names.mergeSort fun a b => a ≤ b

def packagesOf (classes : List ClassDef) : List String :=
  sortNames (classes.map (·.package)).eraseDups

def ofClasses (classes : List ClassDef) : List TreeNode :=
  (packagesOf classes).map (ofPackage classes)

/-- The classes of a model that it lists and knows, in the order of their names. -/
def listedClasses (m : LoadedModel) : Except Failure (List ClassDef) := do
  let found ← (sortNames (← m.names)).mapM m.class?
  return found.filterMap id

def ofModel (m : LoadedModel) : Except Failure (List TreeNode) :=
  (listedClasses m).map ofClasses

end TreeNode

/-- A tree with a filter, and with the nodes that it shows. -/
structure ClassTree where
  roots : List TreeNode := []
  filterText : String := ""
  visible : List TreeNode := roots
  visible_eq : visible = TreeNode.filterAll roots filterText := by simp

namespace ClassTree

/-- Filters the tree anew, whatever it has been filtered by before. -/
def setFilter (t : ClassTree) (text : String) : ClassTree where
  roots := t.roots
  filterText := text
  visible := TreeNode.filterAll t.roots text
  visible_eq := rfl

def walkVisible (t : ClassTree) : List TreeNode :=
  TreeNode.walkAll t.visible

def find? (t : ClassTree) (selection : Option Selection) : Option TreeNode :=
  selection.bind fun s => t.walkVisible.find? (·.selection? == some s)

/-- Nothing selected is always visible. -/
def isVisible (t : ClassTree) (selection : Option Selection) : Bool :=
  match selection with
  | none => true
  | some s => t.walkVisible.any (·.selection? == some s)

end ClassTree

end BytecodeViewer
