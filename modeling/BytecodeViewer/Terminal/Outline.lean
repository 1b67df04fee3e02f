import BytecodeViewer.Terminal.Wrap

/-!
# Outlines

A tree is shown with a line for each label, and guides that lead from a label to
those below it.  Labels are wrapped to the room behind the guides.
-/

namespace BytecodeViewer

inductive Outline where
  | mk (label : String) (children : List Outline)

namespace Outline

def branch (isLast : Bool) : List Char :=
  (if isLast then "└── " else "├── ").toList

def continuation (isLast : Bool) : List Char :=
  (if isLast then "    " else "│   ").toList

/-- The lines of a label; the first one has a guide of its own. -/
def labelLines (width : Nat) (first rest : List Char) (label : String) : List (List Char) :=
  match Terminal.wrap (width - rest.length) label with
  | [] => []
  | line :: lines => (first ++ line) :: lines.map (rest ++ ·)

mutual

/-- The lines of a node, with the guides before its label and before what follows. -/
def lines (width : Nat) (first rest : List Char) : Outline → List (List Char)
  | mk label children => labelLines width first rest label ++ childLines width rest children

def childLines (width : Nat) (guide : List Char) : List Outline → List (List Char)
  | [] => []
  | node :: nodes =>
    lines width (guide ++ branch nodes.isEmpty) (guide ++ continuation nodes.isEmpty) node ++
      childLines width guide nodes

end

def shown (width : Nat) (o : Outline) : String :=
  String.join ((o.lines width [] []).map fun line => String.ofList line ++ "\n")

end Outline

end BytecodeViewer
