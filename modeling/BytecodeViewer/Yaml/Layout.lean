import BytecodeViewer.Yaml.Scalar
import BytecodeViewer.Yaml.Token

/-!
# Reading tokens

Blocks are told by their indentation, and a key only by the colon behind it.
Whatever may turn out to be a key is kept in mind with its place; at a colon the
marks of a key, and of a mapping that begins with it, are put in at that place.
-/

namespace BytecodeViewer

namespace Yaml

/-- What may turn out to be a key, with its place among the tokens. -/
structure PendingKey where
  place : Nat
  /-- Whether nothing but a key can stand here. -/
  required : Bool
  index : Nat
  line : Nat
  column : Nat

/-- The state of reading tokens. -/
structure Layout where
  cursor : Cursor
  tokens : Array Token := #[]
  /-- The indentation of the innermost block, and those of the blocks around it. -/
  indent : Int := -1
  outer : List Int := []
  /-- How many brackets are open. -/
  flow : Int := 0
  /-- Whether a key may begin here. -/
  mayBeKey : Bool := true
  /-- The pending key of every level of brackets. -/
  pending : List (Int × PendingKey) := []

namespace Layout

def inFlow (l : Layout) : Bool :=
  l.flow != 0

def push (l : Layout) (t : Token) : Layout :=
  { l with tokens := l.tokens.push t }

def insertAt (l : Layout) (place : Nat) (ts : List Token) : Layout :=
  let ahead := l.tokens.extract 0 place
  { l with tokens := ahead ++ ts.toArray ++ l.tokens.extract place l.tokens.size }

def skip (l : Layout) (n : Nat) : Layout :=
  { l with cursor := l.cursor.skip n }

/-- A key has to stand on one line and be no longer than this. -/
def maxKeyLength : Nat := 1024

def isStale (l : Layout) (k : PendingKey) : Bool :=
  k.line != l.cursor.line || maxKeyLength < l.cursor.index - k.index

def dropStale (l : Layout) : Except Fault Layout :=
  if l.pending.any fun (_, k) => l.isStale k && k.required then .error .malformed
  else .ok { l with pending := l.pending.filter fun (_, k) => !l.isStale k }

def dropPending (l : Layout) : Except Fault Layout :=
  if l.pending.any fun (level, k) => level == l.flow && k.required then .error .malformed
  else .ok { l with pending := l.pending.filter fun (level, _) => level != l.flow }

def notePending (l : Layout) : Except Fault Layout := do
  if !l.mayBeKey then return l
  let required := !l.inFlow && l.indent == l.cursor.column
  let l ← l.dropPending
  let k : PendingKey :=
    ⟨l.tokens.size, required, l.cursor.index, l.cursor.line, l.cursor.column⟩
  return { l with pending := (l.flow, k) :: l.pending }

/-- Ends the blocks that are indented deeper than a column, given those around. -/
def endBlocks (column : Int) (tokens : Array Token) : Int → List Int → Array Token × Int × List Int
  | indent, [] => (tokens, indent, [])
  | indent, around :: outer =>
    if column < indent then endBlocks column (tokens.push .blockEnd) around outer
    else (tokens, indent, around :: outer)

/-- Ends the blocks that are indented deeper than a column; brackets hold blocks open. -/
def unwind (l : Layout) (column : Int) : Layout :=
  if l.inFlow then l
  else
    let (tokens, indent, outer) := endBlocks column l.tokens l.indent l.outer
    { l with tokens, indent, outer }

def beginsBlock (l : Layout) (column : Nat) : Bool :=
  l.indent < column

def addIndent (l : Layout) (column : Nat) : Layout :=
  { l with outer := l.indent :: l.outer, indent := column }

def beginBlock (l : Layout) (mark : Token) : Layout :=
  if l.beginsBlock l.cursor.column then (l.addIndent l.cursor.column).push mark else l

def read {α : Type} (l : Layout) (scan : Scan α) : Except Fault (α × Layout) := do
  let (a, cursor) ← scan.run l.cursor
  return (a, { l with cursor })

/-- Skips blanks, comments and line breaks up to the next token. -/
def skipBlank : Nat → Layout → Layout
  | 0, l => l
  | fuel + 1, l =>
    let blanks := (l.cursor.rest.takeWhile (· == ' ')).length
    let cursor := l.cursor.skip blanks
    let comment :=
      if cursor.ahead 0 == '#' then (cursor.rest.takeWhile (!isBreak ·)).length else 0
    let cursor := cursor.skip comment
    if isBreak (cursor.ahead 0) then
      skipBlank fuel { l with cursor := cursor.skip 1, mayBeKey := l.mayBeKey || !l.inFlow }
    else { l with cursor }

def skipToToken (l : Layout) : Layout :=
  let cursor :=
    if l.cursor.index == 0 && l.cursor.ahead 0 == byteOrderMark then l.cursor.next else l.cursor
  skipBlank (cursor.rest.length + 1) { l with cursor }

/-! ## Single tokens -/

def streamEnd (l : Layout) : Except Fault Layout := do
  let l ← (l.unwind (-1)).dropPending
  return { l.push .streamEnd with mayBeKey := false, pending := [] }

def directiveLine (l : Layout) : Except Fault Layout := do
  let l ← (l.unwind (-1)).dropPending
  let (d, l) ← { l with mayBeKey := false }.read directive
  return l.push (.directive d)

def separator (l : Layout) (mark : Token) : Except Fault Layout := do
  let l ← (l.unwind (-1)).dropPending
  return { (l.skip 3).push mark with mayBeKey := false }

def openBracket (l : Layout) (mark : Token) : Except Fault Layout := do
  let l ← l.notePending
  return { (l.skip 1).push mark with flow := l.flow + 1, mayBeKey := true }

def closeBracket (l : Layout) (mark : Token) : Except Fault Layout := do
  let l ← l.dropPending
  return { (l.skip 1).push mark with flow := l.flow - 1, mayBeKey := false }

def flowEntry (l : Layout) : Except Fault Layout := do
  let l ← l.dropPending
  return { (l.skip 1).push .flowEntry with mayBeKey := true }

def blockEntry (l : Layout) : Except Fault Layout := do
  if !l.inFlow && !l.mayBeKey then throw .malformed
  let l := if l.inFlow then l else l.beginBlock .blockSequenceStart
  let l ← l.dropPending
  return { (l.skip 1).push .blockEntry with mayBeKey := true }

def explicitKey (l : Layout) : Except Fault Layout := do
  if !l.inFlow && !l.mayBeKey then throw .malformed
  let l := if l.inFlow then l else l.beginBlock .blockMappingStart
  let l ← l.dropPending
  return { (l.skip 1).push .key with mayBeKey := !l.inFlow }

def valueOfPending (l : Layout) (k : PendingKey) : Layout :=
  let l := { l with pending := l.pending.filter fun (level, _) => level != l.flow }
  let begins := !l.inFlow && l.beginsBlock k.column
  let marks := if begins then [.blockMappingStart, .key] else [.key]
  let l := if begins then l.addIndent k.column else l
  { ((l.insertAt k.place marks).skip 1).push .value with mayBeKey := false }

def valueAlone (l : Layout) : Except Fault Layout := do
  if !l.inFlow && !l.mayBeKey then throw .malformed
  let l := if l.inFlow then l else l.beginBlock .blockMappingStart
  let l ← l.dropPending
  return { (l.skip 1).push .value with mayBeKey := !l.inFlow }

def valueSign (l : Layout) : Except Fault Layout :=
  match l.pending.lookup l.flow with
  | some k => .ok (l.valueOfPending k)
  | none => l.valueAlone

def keyLike (l : Layout) (scan : Scan Token) : Except Fault Layout := do
  let l ← l.notePending
  let (t, l) ← l.read scan
  return { l.push t with mayBeKey := false }

def block (l : Layout) (folded : Bool) : Except Fault Layout := do
  let l ← l.dropPending
  let (text, l) ← l.read (blockScalar folded l.indent)
  return { l.push (.scalar (String.ofList text) false) with mayBeKey := true }

def plain (l : Layout) : Except Fault Layout := do
  let l ← l.notePending
  let ((text, lineEnded), l) ← l.read (plainScalar l.inFlow (l.indent + 1))
  return { l.push (.scalar (String.ofList text) true) with mayBeKey := lineEnded }

def isIndicator (c : Char) : Bool :=
  "-?:,[]\x7b\x7d#&*!|>'\"%@\x60".toList.contains c

def beginsPlain (l : Layout) : Bool :=
  let c := l.cursor.ahead 0
  !(endsWord c || isIndicator c) ||
    (!endsWord (l.cursor.ahead 1) && (c == '-' || (!l.inFlow && (c == '?' || c == ':'))))

/-- Whether a sign stands for itself: inside of brackets or in front of a blank. -/
def isSign (l : Layout) : Bool :=
  l.inFlow || endsWord (l.cursor.ahead 1)

def quoted (quote : Char) : Scan Token := do
  return .scalar (String.ofList (← quotedScalar quote)) false

def token (l : Layout) : Except Fault Layout :=
  let c := l.cursor.ahead 0
  let atStart := l.cursor.column == 0
  if c == endMark then l.streamEnd
  else if atStart && c == '%' then l.directiveLine
  else if atStart && l.cursor.isSeparator '-' then l.separator .documentStart
  else if atStart && l.cursor.isSeparator '.' then l.separator .documentEnd
  else if c == '[' then l.openBracket .flowSequenceStart
  else if c == '\x7b' then l.openBracket .flowMappingStart
  else if c == ']' then l.closeBracket .flowSequenceEnd
  else if c == '\x7d' then l.closeBracket .flowMappingEnd
  else if c == ',' then l.flowEntry
  else if c == '-' && endsWord (l.cursor.ahead 1) then l.blockEntry
  else if c == '?' && l.isSign then l.explicitKey
  else if c == ':' && l.isSign then l.valueSign
  else if c == '*' then l.keyLike (return .alias (← anchorName))
  else if c == '&' then l.keyLike (return .anchor (← anchorName))
  else if c == '!' then l.keyLike (return .tag (← writtenTag))
  else if c == '|' && !l.inFlow then l.block false
  else if c == '>' && !l.inFlow then l.block true
  else if c == '\x27' || c == '"' then l.keyLike (quoted c)
  else if l.beginsPlain then l.plain
  else .error .malformed

def step (l : Layout) : Except Fault Layout := do
  let l ← l.skipToToken.dropStale
  (l.unwind l.cursor.column).token

def run : Nat → Layout → Array Token × Option Fault
  | 0, l => (l.tokens, none)
  | fuel + 1, l =>
    match l.step with
    | .error f => (l.tokens, some f)
    | .ok l' => if l'.tokens.back? == some .streamEnd then (l'.tokens, none) else run fuel l'

end Layout

def isAllowed (c : Char) : Bool :=
  let n := c.toNat
  n == 0x9 || n == 0xA || n == 0xD || (0x20 ≤ n && n ≤ 0x7E) || n == 0x85 ||
    (0xA0 ≤ n && n ≤ 0xD7FF) || (0xE000 ≤ n && n ≤ 0xFFFD) || 0x10000 ≤ n

/-- The tokens of a document, and the fault that ends them if they are cut short. -/
def tokens (text : List Char) : Array Token × Option Fault :=
  if text.all isAllowed then Layout.run (text.length + 2) { cursor := { rest := text } }
  else (#[], some .malformed)

end Yaml

end BytecodeViewer
