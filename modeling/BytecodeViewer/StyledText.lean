import BytecodeViewer.Document

/-!
# Styled text for a terminal

A terminal shows a document without the control characters that would move its
cursor.  Offsets stay as they were counted in the document, and a span reaches
no further than the text that is shown.
-/

namespace BytecodeViewer

/-- A range of a terminal text with the colour it is shown in. -/
structure StyledRange where
  start : Int
  stop : Int
  color : Color
  deriving DecidableEq, Repr

structure StyledText where
  plain : String
  ranges : List StyledRange := []
  deriving DecidableEq, Repr

/-- Bell, backspace, vertical tab, form feed and carriage return. -/
def isCursorControl (c : Char) : Bool :=
  c.toNat == 7 || c.toNat == 8 || c.toNat == 11 || c.toNat == 12 || c.toNat == 13

def withoutControls (cs : List Char) : List Char :=
  cs.filter fun c => !isCursorControl c

namespace StyledText

def ofPlain (s : String) : StyledText :=
  ⟨String.ofList (withoutControls s.toList), []⟩

/-- A negative offset counts from the end of the text. -/
def offsetIn (length : Nat) (n : Int) : Int :=
  if n < 0 then length + n else n

def paint (t : StyledText) (color : Color) (start stop : Int) : StyledText :=
  let length := t.plain.length
  let first := offsetIn length start
  let last := offsetIn length stop
  if (length : Int) ≤ first ∨ last ≤ first then t
  else { t with ranges := t.ranges ++ [⟨first, min length last, color⟩] }

def ofDocument (d : Document) : StyledText :=
  d.drawOrder.foldl (fun t s => t.paint s.color s.start s.stop) (ofPlain d.text)

end StyledText

end BytecodeViewer
