import BytecodeViewer.Bytecode.ClassDef
import BytecodeViewer.Bytecode.TypeName
import BytecodeViewer.Render.Indent
import BytecodeViewer.Render.Sections
import BytecodeViewer.Text.Parts

/-!
# Assembly listings

Classes and methods as an assembler for Dalvik bytecode would read them, with
type descriptors and one directive or instruction a line.
-/

namespace BytecodeViewer

namespace Dex

open Text (joinNonempty)

def annotationLines (level : Int) (a : Annotation) : List String :=
  (indent level ++ ".annotation " ++ a.visibility ++ " " ++ TypeName.descriptor a.typeName) ::
    a.elements.map (fun (key, value) => indent (level + 1) ++ key ++ " = " ++ value) ++
    [indent level ++ ".end annotation"]

def fieldLines (f : Field) : List String :=
  let declaration :=
    joinNonempty [".field", f.access.listing, f.name ++ ":" ++ TypeName.descriptor f.typeName] ++
      match f.initialValue with
      | some value => " = " ++ value
      | none => ""
  if f.annotations.isEmpty then [declaration]
  else declaration :: f.annotations.flatMap (annotationLines 1) ++ [".end field"]

def prototype (m : Method) : String :=
  m.name ++ "(" ++ String.join (m.parameters.map fun p => TypeName.descriptor p.typeName) ++ ")" ++
    TypeName.descriptor m.returnType

def instructionText (i : Instruction) : String :=
  joinNonempty [i.opcode, String.intercalate ", " i.operands]

def bodyLines (level : Int) (m : Method) : List String :=
  (if m.registers ≠ 0 then [indent level ++ ".registers " ++ toString m.registers] else []) ++
  m.annotations.flatMap (annotationLines level) ++
  m.instructions.map fun i => indent level ++ instructionText i

def methodBlock (level : Int) (m : Method) : List String :=
  (indent level ++ joinNonempty [".method", m.access.listing, prototype m]) ::
    bodyLines (level + 1) m ++ [indent level ++ ".end method"]

def methodLines (_ : ClassDef) (m : Method) (level : Int) (standalone : Bool) : List String :=
  if standalone then methodBlock level m else bodyLines level m

def separate : List (List String) → List String
  | [] => []
  | [block] => block
  | block :: blocks => block ++ "" :: separate blocks

def nameLines (c : ClassDef) : List String :=
  [joinNonempty [".class", c.access.listing, TypeName.descriptor c.name]]

def detailLines (c : ClassDef) : List String :=
  (match c.superclass with
    | some name => if name == "" then [] else [".super " ++ TypeName.descriptor name]
    | none => []) ++
  (match c.sourceFile with
    | some file => if file == "" then [] else [".source \"" ++ file ++ "\""]
    | none => []) ++
  if c.interfaces.isEmpty then []
  else "# interfaces" :: c.interfaces.map (".implements " ++ TypeName.descriptor ·)

def headed (heading : String) (lines : List String) : List String :=
  if lines.isEmpty then [] else heading :: lines

/-- The lines of one section, none if the class has nothing to show in it. -/
def sectionLines (c : ClassDef) : Section → List String
  | .name => nameLines c
  | .details => detailLines c
  | .annotations => headed "# annotations" (c.annotations.flatMap (annotationLines 0))
  | .fields => headed "# fields" (c.fields.flatMap fieldLines)
  | .methods => headed "# methods" (separate (c.methods.map (methodBlock 0)))

def sectionOrder : List Section :=
  [.name, .details, .annotations, .fields, .methods]

def classLines (c : ClassDef) (o : Sections) : List String :=
  separate (((sectionOrder.filter o.has).map (sectionLines c)).filter (!·.isEmpty))

end Dex

end BytecodeViewer
