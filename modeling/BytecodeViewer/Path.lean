import BytecodeViewer.Text.Parts

/-!
# Paths

A path is a root and the names below it.  Empty names and single dots mean
nothing; double dots are kept.  Two slashes at the start are a root of their own,
more than two are one.
-/

namespace BytecodeViewer

structure Path where
  root : String := ""
  parts : List String := []
  deriving DecidableEq, Repr

namespace Path

def ofText (s : String) : Path :=
  let cs := s.toList
  let slashes := (cs.takeWhile (· == '/')).length
  let parts := ((Text.splitAtEach '/' cs).map String.ofList).filter fun p => p != "" && p != "."
  ⟨if slashes = 0 then "" else if slashes = 2 then "//" else "/", parts⟩

def text (p : Path) : String :=
  if p.root = "" ∧ p.parts = [] then "." else p.root ++ String.intercalate "/" p.parts

def name (p : Path) : String :=
  p.parts.getLast?.getD ""

/-- The last dot of a name and what follows it, unless the dot begins or ends the
name. -/
def suffix (p : Path) : String :=
  let cs := p.name.toList
  let after := (cs.reverse.takeWhile (· != '.')).reverse
  let before := cs.take (cs.length - after.length - 1)
  if after.length < cs.length ∧ after ≠ [] ∧ before ≠ [] then String.ofList ('.' :: after) else ""

/-- The path without double dots; each takes away the name in front of it. -/
def resolved (p : Path) : Path :=
  { p with parts := p.parts.foldl (fun acc part =>
      if part = ".." then acc.dropLast else acc ++ [part]) [] }

def parent (p : Path) : Path :=
  { p with parts := p.parts.dropLast }

end Path

end BytecodeViewer
