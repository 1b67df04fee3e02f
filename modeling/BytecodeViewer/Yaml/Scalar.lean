import BytecodeViewer.Yaml.Cursor

/-!
# Scalars as they are written

Scalars are written plain, in single or double quotes, or as blocks of lines.
Single line breaks inside of the first three and of folded blocks count as blanks.
-/

namespace BytecodeViewer

namespace Yaml

open Scan

/-! ## Plain scalars -/

def isFlowSign (c : Char) : Bool :=
  [',', '[', ']', '\x7b', '\x7d'].contains c

/-- Whether a plain word ends before a character, given the one after it. -/
def stopsPlain (inFlow : Bool) (c following : Char) : Bool :=
  endsWord c || (c == ':' && (endsWord following || (inFlow && isFlowSign following))) ||
    (inFlow && (isFlowSign c || c == '?'))

def plainRun (inFlow : Bool) : List Char → List Char
  | [] => []
  | c :: rest =>
    if stopsPlain inFlow c (rest.head?.getD endMark) then [] else c :: plainRun inFlow rest

/-- What a line break and the breaks after it stand for inside of a scalar: a single
newline is a blank, of several the first is dropped. -/
def foldBreaks (first further : List Char) : List Char :=
  if first ≠ ['\n'] then first ++ further
  else if further.isEmpty then [' ']
  else further

/-- The breaks and blanks at the beginning of the lines that follow in a plain scalar;
none if a document ends there. -/
def plainBreaks : Nat → List Char → Scan (Option (List Char))
  | 0, found => return some found
  | fuel + 1, found => do
    let c ← peek
    if c == ' ' then
      skip 1
      plainBreaks fuel found
    else if isBreak c then
      let found := found ++ (← takeBreak)
      if (← get).isAnySeparator then return none
      plainBreaks fuel found
    else return some found

/-- What stands between two words of a plain scalar, empty if the scalar ends here, and
whether a line ended. -/
def plainSpaces : Scan (List Char × Bool) := do
  let blanks ← takeWhile (· == ' ')
  if isBreak (← peek) then
    let first ← takeBreak
    if (← get).isAnySeparator then return ([], true)
    match ← plainBreaks (← fuel) [] with
    | some further => return (foldBreaks first further, true)
    | none => return ([], true)
  else return (blanks, false)

/-- Goes on with a plain scalar after `text` and the `spaces` that follow it. -/
def plainFrom (inFlow : Bool) (indent : Int) :
    Nat → List Char → List Char → Bool → Scan (List Char × Bool)
  | 0, text, _, lineEnded => return (text, lineEnded)
  | fuel + 1, text, spaces, lineEnded => do
    let run := plainRun inFlow (← get).rest
    if (← peek) == '#' || run.isEmpty then return (text, lineEnded)
    skip run.length
    let text := text ++ spaces ++ run
    let (spaces, lineEnded) ← plainSpaces
    let c ← get
    if spaces.isEmpty || c.ahead 0 == '#' || (!inFlow && (c.column : Int) < indent) then
      return (text, lineEnded)
    plainFrom inFlow indent fuel text spaces lineEnded

/-- A plain scalar, and whether a line has ended behind it.  Its further lines are
indented by at least `indent`. -/
def plainScalar (inFlow : Bool) (indent : Int) : Scan (List Char × Bool) := do
  plainFrom inFlow indent (← fuel) [] [] false

/-! ## Quoted scalars -/

def escaped? : Char → Option Char
  | '0' => some (Char.ofNat 0)
  | 'a' => some (Char.ofNat 7)
  | 'b' => some (Char.ofNat 8)
  | 't' | '\t' => some '\t'
  | 'n' => some '\n'
  | 'v' => some (Char.ofNat 11)
  | 'f' => some (Char.ofNat 12)
  | 'r' => some '\r'
  | 'e' => some (Char.ofNat 27)
  | ' ' => some ' '
  | '"' => some '"'
  | '\\' => some '\\'
  | '/' => some '/'
  | 'N' => some (Char.ofNat 0x85)
  | '_' => some (Char.ofNat 0xA0)
  | 'L' => some (Char.ofNat 0x2028)
  | 'P' => some (Char.ofNat 0x2029)
  | _ => none

def escapeLength? : Char → Option Nat
  | 'x' => some 2
  | 'u' => some 4
  | 'U' => some 8
  | _ => none

def hexCode (length : Nat) : Scan Nat := do
  let digits := (← get).rest.take length
  match digits.mapM (Text.digitIn? 16) with
  | some values =>
    if values.length < length then malformed
    skip length
    return values.foldl (fun n d => n * 16 + d) 0
  | none => malformed

/-- The breaks and blanks between the lines of a quoted scalar. -/
def quotedBreaks : Nat → List Char → Scan (List Char)
  | 0, found => return found
  | fuel + 1, found => do
    if (← get).isAnySeparator then malformed
    skipWhile isSpace
    if isBreak (← peek) then
      quotedBreaks fuel (found ++ (← takeBreak))
    else return found

def escape : Scan (List Char) := do
  skip 1
  let c ← peek
  if let some e := escaped? c then
    skip 1
    return [e]
  else if let some length := escapeLength? c then
    skip 1
    let code ← hexCode length
    if 0x10FFFF < code then
      throw (.value (.noCharacter code))
    return [Char.ofNat code]
  else if isBreak c then
    let _ ← takeBreak
    quotedBreaks (← fuel) []
  else malformed

def isQuotedWord (c : Char) : Bool :=
  !(endsWord c || c == '\x27' || c == '"' || c == '\\')

def quotedWord (double : Bool) : Nat → List Char → Scan (List Char)
  | 0, text => return text
  | fuel + 1, text => do
    let text := text ++ (← takeWhile isQuotedWord)
    let c ← get
    let ch := c.ahead 0
    if !double && ch == '\x27' && c.ahead 1 == '\x27' then
      skip 2
      quotedWord double fuel (text ++ ['\x27'])
    else if (double && ch == '\x27') || (!double && (ch == '"' || ch == '\\')) then
      skip 1
      quotedWord double fuel (text ++ [ch])
    else if double && ch == '\\' then
      quotedWord double fuel (text ++ (← escape))
    else return text

def quotedSpaces : Scan (List Char) := do
  let blanks ← takeWhile isSpace
  let c ← peek
  if c == endMark then malformed
  else if isBreak c then
    let first ← takeBreak
    return foldBreaks first (← quotedBreaks (← fuel) [])
  else return blanks

def quotedFrom (quote : Char) : Nat → List Char → Scan (List Char)
  | 0, _ => malformed
  | fuel + 1, text => do
    if (← peek) == quote then
      skip 1
      return text
    let spaces ← quotedSpaces
    let word ← quotedWord (quote == '"') (← Scan.fuel) []
    quotedFrom quote fuel (text ++ spaces ++ word)

def quotedScalar (quote : Char) : Scan (List Char) := do
  skip 1
  let first ← quotedWord (quote == '"') (← fuel) []
  quotedFrom quote (← fuel) first

/-! ## Block scalars -/

/-- What becomes of the line breaks at the end of a block. -/
inductive Chomping where
  | clip
  | strip
  | keep
  deriving DecidableEq

def chomping? : Char → Option Chomping
  | '+' => some .keep
  | '-' => some .strip
  | _ => none

/-- A digit from one to nine; a zero is refused. -/
def indentDigit? : Scan (Option Nat) := do
  match Text.digitIn? 10 (← peek) with
  | some 0 => malformed
  | some d =>
    skip 1
    return some d
  | none => return none

/-- How line breaks at the end are treated, and the indentation if it is told. -/
def blockHeader : Scan (Chomping × Option Nat) := do
  if let some chomping := chomping? (← peek) then
    skip 1
    let indent ← indentDigit?
    return (chomping, indent)
  let indent ← indentDigit?
  match indent, chomping? (← peek) with
  | some _, some chomping =>
    skip 1
    return (chomping, indent)
  | _, _ => return (.clip, indent)

/-- The empty lines at the beginning of a block, and the deepest column they reach. -/
def blockIndent : Nat → List Char → Nat → Scan (List Char × Nat)
  | 0, found, deepest => return (found, deepest)
  | fuel + 1, found, deepest => do
    let c ← peek
    if c == ' ' then
      skip 1
      blockIndent fuel found (max deepest (← get).column)
    else if isBreak c then
      blockIndent fuel (found ++ (← takeBreak)) deepest
    else return (found, deepest)

def skipIndent (column : Nat) : Scan Unit := do
  let c ← get
  let blanks := (c.rest.takeWhile (· == ' ')).length
  skip (min blanks (column - c.column))

def blockBreaks (indent : Nat) : Nat → List Char → Scan (List Char)
  | 0, found => return found
  | fuel + 1, found => do
    skipIndent indent
    if isBreak (← peek) then
      blockBreaks indent fuel (found ++ (← takeBreak))
    else return found

def isBlockLine (indent : Nat) : Scan Bool := do
  let c ← get
  return c.column == indent && c.ahead 0 != endMark

/-- The lines of a block after `text`: their text, the break after the last one and
the breaks that follow. -/
def blockLines (folded : Bool) (indent : Nat) :
    Nat → List Char → List Char → Scan (List Char × List Char × List Char)
  | 0, text, breaks => return (text, [], breaks)
  | fuel + 1, text, breaks => do
    let isOpen := !isSpace (← peek)
    let line ← takeWhile (!isBreak ·)
    let text := text ++ breaks ++ line
    let lineBreak ← takeBreak
    let breaks ← blockBreaks indent (← Scan.fuel) []
    if ← isBlockLine indent then
      let c ← peek
      let joins := folded && lineBreak == ['\n'] && isOpen && !isSpace c
      let between := if !joins then lineBreak else if breaks.isEmpty then [' '] else []
      blockLines folded indent fuel (text ++ between) breaks
    else return (text, lineBreak, breaks)

/-- A block of lines below a node that is indented by `outer`. -/
def blockScalar (folded : Bool) (outer : Int) : Scan (List Char) := do
  skip 1
  let (chomping, told) ← blockHeader
  unless (← peek) == ' ' || endsLine (← peek) do
    malformed
  skipRestOfLine
  let least := (max 1 (outer + 1)).toNat
  let (breaks, indent) ← match told with
    | some n => do
      let indent := least + n - 1
      pure (← blockBreaks indent (← fuel) [], indent)
    | none => do
      let (found, deepest) ← blockIndent (← fuel) [] 0
      pure (found, max least deepest)
  let (text, lineBreak, breaks) ←
    if ← isBlockLine indent then blockLines folded indent (← fuel) [] breaks
    else pure ([], [], breaks)
  return match chomping with
    | .strip => text
    | .clip => text ++ lineBreak
    | .keep => text ++ lineBreak ++ breaks

end Yaml

end BytecodeViewer
