/-!
# Type names

A type name such as `int[]` or `a.b.C` is written as a descriptor in assembly
listings, and without the package `java.lang` in pseudo-source.
-/

namespace BytecodeViewer

namespace TypeName

def primitives : List (String × String) :=
  [("void", "V"), ("boolean", "Z"), ("byte", "B"), ("char", "C"), ("short", "S"), ("int", "I"),
    ("long", "J"), ("float", "F"), ("double", "D")]

/-- The number of array marks at the end of a name, given and left reversed. -/
def splitDimensions : List Char → Nat × List Char
  | ']' :: '[' :: rest =>
    let (n, base) := splitDimensions rest
    (n + 1, base)
  | base => (0, base)

def baseDescriptor (name : String) : String :=
  match primitives.lookup name with
  | some letter => letter
  | none => "L" ++ String.ofList (name.toList.map fun c => if c = '.' then '/' else c) ++ ";"

def descriptor (name : String) : String :=
  let (n, base) := splitDimensions name.toList.reverse
  String.ofList (List.replicate n '[') ++ baseDescriptor (String.ofList base.reverse)

def languagePackage : List Char := "java.lang.".toList

/-- A class directly in `java.lang` is written without its package. -/
def simple (name : String) : String :=
  let cs := name.toList
  if languagePackage.isPrefixOf cs && cs.count '.' == 2 then
    String.ofList (cs.drop languagePackage.length)
  else name

end TypeName

end BytecodeViewer
