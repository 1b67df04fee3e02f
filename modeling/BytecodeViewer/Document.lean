import BytecodeViewer.Color

/-!
# Documents

A document is a text with coloured spans.  Spans may overlap: a display paints
them in the order of their rules, so a later rule wins, and `colorAt` gives the
colour that remains visible at an offset.
-/

namespace BytecodeViewer

/-- The half-open range from `start` to `stop`, coloured by the rule of index `rule`. -/
structure Span where
  start : Int
  stop : Int
  color : Color
  rule : Int := 0
  deriving DecidableEq, Repr

namespace Span

def length (s : Span) : Int :=
  s.stop - s.start

def covers (s : Span) (offset : Int) : Bool :=
  s.start ≤ offset && offset < s.stop

end Span

structure Document where
  text : String := ""
  spans : List Span := []
  deriving DecidableEq, Repr

namespace Document

def empty : Document := {}

def isEmpty (d : Document) : Bool :=
  d.text.isEmpty && d.spans.isEmpty

/-- Spans in the order in which a display paints them: by rule, and among the
spans of one rule as they stand. -/
def drawOrder (d : Document) : List Span :=
  d.spans.mergeSort fun a b => a.rule ≤ b.rule

def colorAt (d : Document) (offset : Int) : Option Color :=
  d.drawOrder.foldl (fun seen s => if s.covers offset then some s.color else seen) none

end Document

end BytecodeViewer
