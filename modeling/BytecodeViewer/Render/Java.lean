import BytecodeViewer.Bytecode.ClassDef
import BytecodeViewer.Bytecode.TypeName
import BytecodeViewer.Render.Indent
import BytecodeViewer.Render.Sections
import BytecodeViewer.Text.Parts

/-!
# Java-like pseudo-source

Classes and methods in a notation close to Java.  Each instruction becomes one
statement as well as it can; what has no statement becomes a comment.
-/

namespace BytecodeViewer

namespace Java

open Text (beginsWith joinNonempty)

def commas (parts : List String) : String :=
  String.intercalate ", " parts

def annotationText (a : Annotation) : String :=
  let name := "@" ++ TypeName.simple a.typeName
  if a.elements.isEmpty then name
  else name ++ "(" ++ commas (a.elements.map fun (key, value) => key ++ " = " ++ value) ++ ")"

def comparison? : String → Option String
  | "eq" => some "=="
  | "ne" => some "!="
  | "lt" => some "<"
  | "ge" => some ">="
  | "gt" => some ">"
  | "le" => some "<="
  | _ => none

def unknownStatement (opcode : String) (operands : List String) : String :=
  if operands.isEmpty then "/* " ++ opcode ++ " */"
  else "/* " ++ opcode ++ " " ++ commas operands ++ " */"

/-- A conditional jump: `condition` is the opcode without `if-`, and a final `z`
compares with zero. -/
def jumpStatement? (condition : List Char) (operands : List String) : Option String :=
  let zero := condition.getLast? == some 'z'
  let word := String.ofList (condition.reverse.dropWhile (· == 'z')).reverse
  (comparison? word).bind fun sign =>
    match zero, operands with
    | true, a :: target :: _ => some ("if (" ++ a ++ " " ++ sign ++ " 0) goto " ++ target ++ ";")
    | _, a :: b :: target :: _ =>
      some ("if (" ++ a ++ " " ++ sign ++ " " ++ b ++ ") goto " ++ target ++ ";")
    | _, _ => none

def statement? (opcode : String) (operands : List String) : Option String :=
  if opcode == "return-void" then some "return;"
  else if beginsWith opcode "if-" then jumpStatement? (opcode.toList.drop 3) operands
  else match operands with
    | [] => none
    | a :: others =>
      if beginsWith opcode "return" then some ("return " ++ a ++ ";")
      else if beginsWith opcode "move-result" then some (a ++ " = $result;")
      else if beginsWith opcode "invoke" then
        some ("$result = " ++ a ++ "(" ++ commas others ++ ");")
      else if opcode == "throw" then some ("throw " ++ a ++ ";")
      else if beginsWith opcode "goto" then some ("goto " ++ a ++ ";")
      else match others with
        | [] => none
        | b :: _ =>
          if beginsWith opcode "const" then some (a ++ " = " ++ b ++ ";")
          else if beginsWith opcode "move" then some (a ++ " = " ++ b ++ ";")
          else if opcode == "new-instance" then
            some (a ++ " = new " ++ TypeName.simple b ++ "();")
          else none

def statement (i : Instruction) : String :=
  (statement? i.opcode i.operands).getD (unknownStatement i.opcode i.operands)

def kindWord (access : Access) : String :=
  if access.has .isAnnotationType then "@interface"
  else if access.has .isInterface then "interface"
  else if access.has .isEnum then "enum"
  else "class"

/-- Modifiers, kind and name.  An interface is abstract without saying so. -/
def classHeader (c : ClassDef) : String :=
  let excluded := if c.access.has .isInterface then Access.ofFlag .isAbstract else .none
  joinNonempty [c.access.modifiers excluded, kindWord c.access, c.simpleName]

def extendsClause (c : ClassDef) : String :=
  match c.superclass with
  | some name =>
    if name == "" || name == "java.lang.Object" then "" else "extends " ++ TypeName.simple name
  | none => ""

def implementsClause (c : ClassDef) : String :=
  if c.interfaces.isEmpty then ""
  else
    (if c.access.has .isInterface then "extends " else "implements ") ++
      commas (c.interfaces.map TypeName.simple)

def fieldDeclaration (f : Field) : String :=
  joinNonempty [f.access.modifiers .none, TypeName.simple f.typeName, f.name] ++
    match f.initialValue with
    | some value => " = " ++ value
    | none => ""

def fieldLines (level : Int) (f : Field) : List String :=
  let pad := indent level
  f.annotations.map (fun a => pad ++ annotationText a) ++ [pad ++ fieldDeclaration f ++ ";"]

/-- The name of a parameter, made from its position if it has none. -/
def parameterName (index : Nat) (p : Parameter) : String :=
  match p.name with
  | some name => if name == "" then "p" ++ toString index else name
  | none => "p" ++ toString index

def parameterTexts : Nat → List Parameter → List String
  | _, [] => []
  | index, p :: ps =>
    (TypeName.simple p.typeName ++ " " ++ parameterName index p) :: parameterTexts (index + 1) ps

def signature (c : ClassDef) (m : Method) : String :=
  let params := "(" ++ commas (parameterTexts 0 m.parameters) ++ ")"
  let modifiers := m.access.modifiers .none
  if m.name == "<clinit>" then "static"
  else if m.name == "<init>" then joinNonempty [modifiers, c.simpleName ++ params]
  else joinNonempty [modifiers, TypeName.simple m.returnType, m.name ++ params]

/-- Abstract and native methods have no body. -/
def hasBody (m : Method) : Bool :=
  !(m.access.has .isAbstract || m.access.has .isNative)

def bodyLines (level : Int) (m : Method) : List String :=
  m.instructions.map fun i => indent level ++ statement i

def declarationLines (level : Int) (c : ClassDef) (m : Method) : List String :=
  let pad := indent level
  m.annotations.map (fun a => pad ++ annotationText a) ++
    [pad ++ signature c m ++ if hasBody m then " \x7b" else ";"]

def methodBlock (level : Int) (c : ClassDef) (m : Method) : List String :=
  if hasBody m then
    declarationLines level c m ++ bodyLines (level + 1) m ++ [indent level ++ "\x7d"]
  else declarationLines level c m

def methodLines (c : ClassDef) (m : Method) (level : Int) (standalone : Bool) : List String :=
  if standalone then methodBlock level c m else bodyLines level m

def headLines (c : ClassDef) (o : Sections) : List String :=
  (if o.name && c.package != "" then ["package " ++ c.package ++ ";", ""] else []) ++
  (match c.sourceFile with
    | some file => if o.details && file != "" then ["// Compiled from \"" ++ file ++ "\""] else []
    | none => []) ++
  (if o.annotations then c.annotations.map annotationText else []) ++
  (if o.name then
    if o.details then
      [joinNonempty [classHeader c, extendsClause c, implementsClause c] ++ " \x7b"]
    else [classHeader c ++ " \x7b"]
  else if o.details then
    ([extendsClause c, implementsClause c].filter (· != "")).map ("// " ++ ·)
  else [])

/-- Adds a block of lines after an empty line, which the first block goes without. -/
def appendBlock (lines block : List String) : List String :=
  if lines.isEmpty then block else lines ++ "" :: block

/-- Members stand one level deeper when the name of the class is shown. -/
def memberLevel (o : Sections) : Int :=
  if o.name then 1 else 0

/-- The blocks of the members: all fields in one, then each method in its own. -/
def memberBlocks (c : ClassDef) (o : Sections) : List (List String) :=
  (if o.fields && !c.fields.isEmpty then [c.fields.flatMap (fieldLines (memberLevel o))] else []) ++
  (if o.methods then c.methods.map (methodBlock (memberLevel o) c) else [])

def classLines (c : ClassDef) (o : Sections) : List String :=
  (memberBlocks c o).foldl appendBlock (headLines c o) ++ if o.name then ["\x7d"] else []

end Java

end BytecodeViewer
