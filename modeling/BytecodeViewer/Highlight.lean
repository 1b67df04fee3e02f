import BytecodeViewer.Document
import BytecodeViewer.Pattern.Matching

/-!
# Highlighting

A rule colours the first group of its pattern.  Every rule scans the whole text
by itself, and the spans of all rules are sorted by where they start; spans with
one start keep the order of their rules.
-/

namespace BytecodeViewer

structure HighlightRule where
  pattern : Pattern
  color : Color
  deriving DecidableEq, Repr

namespace HighlightRule

/-- A rule whose pattern has no group colours nothing. -/
def colorsNothing (r : HighlightRule) : Bool :=
  r.pattern.groups == 0

/-- The ranges of the first group in the successive matches, where it took part and
is not empty. -/
def ranges (r : HighlightRule) (text : Array Char) : List (Nat × Nat) :=
  if r.colorsNothing then []
  else (r.pattern.matchesIn text).filterMap fun m =>
    (m.group? 1).filter fun (start, stop) => start != stop

def spans (r : HighlightRule) (text : Array Char) (index : Nat) : List Span :=
  (r.ranges text).map fun (start, stop) => ⟨start, stop, r.color, index⟩

end HighlightRule

/-- The spans of a list of rules, numbered from `first`, one rule after another. -/
def ruleSpans (text : Array Char) : Nat → List HighlightRule → List Span
  | _, [] => []
  | first, r :: rs => r.spans text first ++ ruleSpans text (first + 1) rs

def highlight (text : String) (rules : List HighlightRule) : List Span :=
  (ruleSpans text.toList.toArray 0 rules).mergeSort fun a b => a.start ≤ b.start

end BytecodeViewer
