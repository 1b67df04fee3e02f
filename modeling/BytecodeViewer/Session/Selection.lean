/-!
# Selections

What is to be shown: a class, a method of a class, or nothing.  A caller may also
ask for something that cannot be shown.
-/

namespace BytecodeViewer

inductive Selection where
  | wholeClass (classRef : String)
  | method (classRef methodRef : String)
  | unsupported (text : String)
  deriving DecidableEq, Repr

def Selection.describe : Option Selection → String
  | some (.wholeClass classRef) => classRef
  | some (.method classRef methodRef) => classRef ++ "." ++ methodRef
  | _ => "<none>"

end BytecodeViewer
