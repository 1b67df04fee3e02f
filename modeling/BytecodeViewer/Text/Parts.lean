/-!
# Parts of a text

Whether a text begins with another, or holds it as a contiguous part.
-/

namespace BytecodeViewer.Text

def beginsWith (s start : String) : Bool :=
  start.toList.isPrefixOf s.toList

/-- Whether `part` is a contiguous part of a list. -/
def holdsPart (part : List Char) : List Char → Bool
  | [] => part.isEmpty
  | c :: cs => part.isPrefixOf (c :: cs) || holdsPart part cs

def occursIn (part s : String) : Bool :=
  holdsPart part.toList s.toList

theorem holdsPart_iff {part cs : List Char} :
    holdsPart part cs = true ↔ part <:+: cs := by
  induction cs with
  | nil =>
      simp [holdsPart]
  | cons c cs ih =>
      simp [holdsPart, ih, List.infix_cons_iff]

def splitAtEach (mark : Char) : List Char → List (List Char)
  | [] => [[]]
  | c :: cs =>
    match splitAtEach mark cs with
    | [] => [[c]]
    | part :: parts => if c = mark then [] :: part :: parts else (c :: part) :: parts

def joinNonempty (parts : List String) : String :=
  String.intercalate " " (parts.filter (· != ""))

end BytecodeViewer.Text
