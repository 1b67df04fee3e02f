import BytecodeViewer.Yaml.Fault

/-!
# A cursor in a document

The rest of a text together with the place where it begins.  Beyond the end a
cursor sees the null character, which no document holds.
-/

namespace BytecodeViewer

namespace Yaml

def isBreak (c : Char) : Bool :=
  c == '\n' || c.toNat == 0x85 || c.toNat == 0x2028 || c.toNat == 0x2029

def endMark : Char := Char.ofNat 0

def isSpace (c : Char) : Bool :=
  c == ' ' || c == '\t'

/-- Whether a character ends a word: a blank, a line break or the end. -/
def endsWord (c : Char) : Bool :=
  isSpace c || isBreak c || c == endMark

def endsLine (c : Char) : Bool :=
  isBreak c || c == endMark

def byteOrderMark : Char := Char.ofNat 0xFEFF

structure Cursor where
  rest : List Char
  index : Nat := 0
  line : Nat := 0
  column : Nat := 0

namespace Cursor

def ahead (c : Cursor) (n : Nat) : Char :=
  (c.rest[n]?).getD endMark

/-- Goes past one character; a byte order mark takes no column. -/
def next (c : Cursor) : Cursor :=
  match c.rest with
  | [] => c
  | ch :: rest =>
    if isBreak ch then ⟨rest, c.index + 1, c.line + 1, 0⟩
    else ⟨rest, c.index + 1, c.line, if ch = byteOrderMark then c.column else c.column + 1⟩

def skip (c : Cursor) : Nat → Cursor
  | 0 => c
  | n + 1 => c.next.skip n

def isSeparator (c : Cursor) (sign : Char) : Bool :=
  c.rest.take 3 == [sign, sign, sign] && endsWord (c.ahead 3)

def isAnySeparator (c : Cursor) : Bool :=
  c.isSeparator '-' || c.isSeparator '.'

end Cursor

/-- Reading moves a cursor. -/
abbrev Scan := StateT Cursor (Except Fault)

namespace Scan

def malformed {α : Type} : Scan α :=
  throw .malformed

def peek : Scan Char :=
  return (← get).ahead 0

def skip (n : Nat) : Scan Unit :=
  modify (·.skip n)

def takeWhile (p : Char → Bool) : Scan (List Char) := do
  let run := (← get).rest.takeWhile p
  skip run.length
  return run

def skipWhile (p : Char → Bool) : Scan Unit := do
  let _ ← takeWhile p

/-- Takes a line break, if one stands here.  The usual ones all count as newlines. -/
def takeBreak : Scan (List Char) := do
  let c ← peek
  if isBreak c then
    skip 1
    return if c.toNat < 0x2000 then ['\n'] else [c]
  else return []

/-- Skips blanks and a comment, which have to reach the end of the line, and the line
break. -/
def skipRestOfLine : Scan Unit := do
  skipWhile (· == ' ')
  if (← peek) == '#' then
    skipWhile (!isBreak ·)
  unless endsLine (← peek) do
    malformed
  let _ ← takeBreak

def fuel : Scan Nat :=
  return (← get).rest.length + 1

end Scan

end Yaml

end BytecodeViewer
