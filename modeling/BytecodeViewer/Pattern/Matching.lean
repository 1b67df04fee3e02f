import BytecodeViewer.Pattern.Tree

/-!
# Matching

A node is matched by trying its ways in order of preference and handing each
one to the rest of the pattern, until the rest succeeds.  The rest is a function
of the position and the groups captured so far, so backtracking is the return
of `none`.

The matches of a pattern in a text are found from left to right.  An empty match
may stand next to another match, but two empty matches never share a position.
-/

namespace BytecodeViewer

namespace Pattern

abbrev Captures := List (Nat × Nat × Nat)

def Captures.range? (caps : Captures) (index : Nat) : Option (Nat × Nat) :=
  caps.lookup index

abbrev Rest (α : Type) := Nat → Captures → Option α

/-- A part of a pattern: tries its ways from a position and hands each to the rest. -/
abbrev Way (α : Type) := Nat → Captures → Rest α → Option α

@[inline] def orTry {α : Type} (first : Option α) (second : Unit → Option α) : Option α :=
  match first with
  | some a => some a
  | none => second ()

def Way.times {α : Type} (body : Way α) : Nat → Way α
  | 0 => fun i caps rest => rest i caps
  | n + 1 => fun i caps rest => body i caps fun j caps' => body.times n j caps' rest

def fewer : Option Nat → Option Nat
  | none => none
  | some n => some (n - 1)

/-- As many rounds as the rest allows.  A round that consumed nothing is the last
one, so `fuel`, the number of characters left, bounds the rounds. -/
def Way.greedy {α : Type} (body : Way α) : Nat → Option Nat → Way α
  | 0, _ => fun i caps rest => rest i caps
  | _, some 0 => fun i caps rest => rest i caps
  | fuel + 1, limit => fun i caps rest =>
    orTry
      (body i caps fun j caps' =>
        if j = i then rest j caps' else body.greedy fuel (fewer limit) j caps' rest)
      fun _ => rest i caps

def Way.lazy {α : Type} (body : Way α) : Nat → Option Nat → Way α
  | 0, _ => fun i caps rest => rest i caps
  | _, some 0 => fun i caps rest => rest i caps
  | fuel + 1, limit => fun i caps rest =>
    orTry (rest i caps) fun _ =>
      body i caps fun j caps' =>
        if j = i then rest j caps' else body.lazy fuel (fewer limit) j caps' rest

def Way.first {α : Type} (body : Way (Nat × Captures)) : Way α := fun i caps rest =>
  match body i caps fun j caps' => some (j, caps') with
  | some (j, caps') => rest j caps'
  | none => none

def Way.possessive {α : Type} (body : Way (Nat × Captures)) (least : Nat) (fuel : Nat)
    (limit : Option Nat) : Way α :=
  Way.first fun i caps rest =>
    Way.times body.first least i caps fun j caps' =>
      Way.greedy body.first fuel limit j caps' rest

/-- Whether a position lies between a word character and something else. -/
def isWordEdge (text : Array Char) (ascii : Bool) (i : Nat) : Bool :=
  let isWordAt (k : Nat) : Bool := text[k]?.any (CharKind.word.holds ascii)
  (decide (0 < i) && isWordAt (i - 1)) != isWordAt i

def Anchor.holds (text : Array Char) (i : Nat) : Anchor → Bool
  | textStart => i == 0
  | textEnd => i == text.size
  | lineStart => i == 0 || text[i - 1]? == some '\n'
  | lineEnd => i == text.size || text[i]? == some '\n'
  | lastLineEnd => i == text.size || (i + 1 == text.size && text[i]? == some '\n')
  | wordEdge ascii => isWordEdge text ascii i
  | notWordEdge ascii => !text.isEmpty && !isWordEdge text ascii i

/-- The end of a copy of `text` from `start` to `stop` at a position. -/
def copyEnd? (text : Array Char) (rule : CaseRule) (start stop i : Nat) : Option Nat :=
  let len := stop - start
  if i + len ≤ text.size ∧ (List.range len).all fun k =>
      text[start + k]?.map rule.fold == text[i + k]?.map rule.fold then
    some (i + len)
  else none

def Node.ways (text : Array Char) : Node → {α : Type} → Way α
  | .empty => fun i caps rest => rest i caps
  | .char test => fun i caps rest =>
    match text[i]? with
    | some c => if test.holds c then rest (i + 1) caps else none
    | none => none
  | .seq first second => fun i caps rest =>
    first.ways text i caps fun j caps' => second.ways text j caps' rest
  | .alt first second => fun i caps rest =>
    orTry (first.ways text i caps rest) fun _ => second.ways text i caps rest
  | .group index body => fun i caps rest =>
    body.ways text i caps fun j caps' => rest j ((index, i, j) :: caps')
  | .atomic body => Way.first (body.ways text)
  | .repetition body least most greed => fun i caps rest =>
    let limit := most.map (· - least)
    match greed with
    | .greedy => Way.times (body.ways text) least i caps fun j caps' =>
        Way.greedy (body.ways text) (text.size + 1 - j) limit j caps' rest
    | .lazy => Way.times (body.ways text) least i caps fun j caps' =>
        Way.lazy (body.ways text) (text.size + 1 - j) limit j caps' rest
    | .possessive =>
        Way.possessive (body.ways text) least (text.size + 1 - i) limit i caps rest
  | .look side negated body => fun i caps rest =>
    let found : Option (Nat × Captures) :=
      match side with
      | .ahead => body.ways text i caps fun j caps' => some (j, caps')
      | .behind width =>
        if width ≤ i then body.ways text (i - width) caps fun j caps' => some (j, caps')
        else none
    match found, negated with
    | some (_, caps'), false => rest i caps'
    | none, true => rest i caps
    | _, _ => none
  | .anchor a => fun i caps rest => if a.holds text i then rest i caps else none
  | .backreference index rule => fun i caps rest =>
    match caps.range? index with
    | some (start, stop) =>
      match copyEnd? text rule start stop i with
      | some j => rest j caps
      | none => none
    | none => none
  | .ifGroup index yes no => fun i caps rest =>
    match caps.range? index with
    | some _ => yes.ways text i caps rest
    | none => no.ways text i caps rest

/-- A match: its range and what its groups captured. -/
structure Match where
  start : Nat
  stop : Nat
  captures : Captures
  deriving DecidableEq, Repr

def Match.group? (m : Match) (index : Nat) : Option (Nat × Nat) :=
  m.captures.range? index

/-- The match that begins at a position; one that must advance is not empty. -/
def matchAt? (p : Pattern) (text : Array Char) (mustAdvance : Bool) (i : Nat) : Option Match :=
  p.root.ways text i [] fun j caps =>
    if mustAdvance && j == i then none else some ⟨i, j, caps⟩

/-- The first match among the next `count` positions.  Only a match at the first
position can have to advance. -/
def firstMatch? (p : Pattern) (text : Array Char) (mustAdvance : Bool) : Nat → Nat → Option Match
  | 0, _ => none
  | count + 1, i =>
    match p.matchAt? text mustAdvance i with
    | some m => some m
    | none => p.firstMatch? text false count (i + 1)

/-- The successive matches from a position on.  Each ends beyond the last one or is
followed by one that does, so `fuel` of twice the text suffices. -/
def matchesFrom (p : Pattern) (text : Array Char) : Nat → Bool → Nat → List Match
  | 0, _, _ => []
  | fuel + 1, mustAdvance, i =>
    match p.firstMatch? text mustAdvance (text.size + 1 - i) i with
    | some m => m :: p.matchesFrom text fuel (m.stop == m.start) m.stop
    | none => []

def matchesIn (p : Pattern) (text : Array Char) : List Match :=
  p.matchesFrom text (2 * text.size + 2) false 0

end Pattern

end BytecodeViewer
