/-!
# Indented lines

Lines are indented by four blanks a level; levels below zero count as zero.
-/

namespace BytecodeViewer

def indentUnit : String := "    "

def indent (level : Int) : String :=
  String.ofList (List.replicate (4 * level.toNat) ' ')

def joinLines (lines : List String) : String :=
  String.join (lines.map (· ++ "\n"))

end BytecodeViewer
