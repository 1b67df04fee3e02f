import BytecodeViewer.Pattern.CharTest

/-!
# Pattern trees

The tree that a written pattern stands for.  Options such as case and line mode
have been settled where they apply, so a node says by itself what it matches.
-/

namespace BytecodeViewer

namespace Pattern

/-- A condition on a position. -/
inductive Anchor where
  | textStart
  | textEnd
  | lineStart
  | lineEnd
  /-- The end of the text or the newline that ends it. -/
  | lastLineEnd
  | wordEdge (ascii : Bool)
  | notWordEdge (ascii : Bool)
  deriving DecidableEq, Repr

/-- How a repetition goes on when it could also stop. -/
inductive Greed where
  | greedy
  | lazy
  /-- Takes what it can and gives nothing back. -/
  | possessive
  deriving DecidableEq, Repr

/-- Where a condition on the surrounding text is tried. -/
inductive Side where
  | ahead
  /-- Tried so many characters before the position. -/
  | behind (width : Nat)
  deriving DecidableEq, Repr

inductive Node where
  | empty
  | char (test : CharTest)
  | seq (first second : Node)
  | alt (first second : Node)
  | group (index : Nat) (body : Node)
  | atomic (body : Node)
  | repetition (body : Node) (least : Nat) (most : Option Nat) (greed : Greed)
  | look (side : Side) (negated : Bool) (body : Node)
  | anchor (a : Anchor)
  | backreference (index : Nat) (rule : CaseRule)
  | ifGroup (index : Nat) (yes no : Node)
  deriving DecidableEq, Repr

def Node.sequence : List Node → Node
  | [] => .empty
  | [n] => n
  | n :: ns => .seq n (Node.sequence ns)

def Node.choice : List Node → Node
  | [] => .empty
  | [n] => n
  | n :: ns => .alt n (Node.choice ns)

end Pattern

/-- A pattern as it was written, the number of its groups, and its tree. -/
structure Pattern where
  source : String
  groups : Nat
  root : Pattern.Node
  deriving DecidableEq, Repr

end BytecodeViewer
