import BytecodeViewer.Bytecode.Access

/-!
# Classes and their members

What a parser reads from a bytecode container.  Operands and values are texts
already.  A method is referred to within its class by its key, its name with
the types of its parameters.
-/

namespace BytecodeViewer

structure Annotation where
  typeName : String
  visibility : String := "runtime"
  elements : List (String × String) := []
  deriving DecidableEq, Repr

structure Parameter where
  typeName : String
  name : Option String := none
  deriving DecidableEq, Repr

structure Instruction where
  opcode : String
  operands : List String := []
  deriving DecidableEq, Repr

structure Field where
  name : String
  typeName : String
  access : Access := .none
  annotations : List Annotation := []
  initialValue : Option String := none
  deriving DecidableEq, Repr

structure Method where
  name : String
  returnType : String := "void"
  parameters : List Parameter := []
  access : Access := .none
  annotations : List Annotation := []
  /-- May be negative in a damaged container. -/
  registers : Int := 0
  instructions : List Instruction := []
  deriving DecidableEq, Repr

namespace Method

def key (m : Method) : String :=
  m.name ++ "(" ++ String.intercalate "," (m.parameters.map (·.typeName)) ++ ")"

/-- Constructors and class initialisers have names of their own. -/
def isConstructor (m : Method) : Bool :=
  m.name == "<init>" || m.name == "<clinit>"

end Method

structure ClassDef where
  name : String
  access : Access := .ofFlag .isPublic
  superclass : Option String := some "java.lang.Object"
  interfaces : List String := []
  sourceFile : Option String := none
  annotations : List Annotation := []
  fields : List Field := []
  methods : List Method := []
  deriving DecidableEq, Repr

/-- The parts of a qualified name before and after its last dot.  A name without a
dot is all last part. -/
def splitQualified (cs : List Char) : List Char × List Char :=
  let last := (cs.reverse.takeWhile (· != '.')).reverse
  (cs.take (cs.length - last.length - 1), last)

namespace ClassDef

def package (c : ClassDef) : String :=
  String.ofList (splitQualified c.name.toList).1

def simpleName (c : ClassDef) : String :=
  String.ofList (splitQualified c.name.toList).2

def findMethod? (c : ClassDef) (key : String) : Option Method :=
  c.methods.find? (·.key == key)

end ClassDef

end BytecodeViewer
