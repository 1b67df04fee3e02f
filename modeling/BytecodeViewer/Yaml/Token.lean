import BytecodeViewer.Yaml.Cursor

/-!
# Tokens of a document

What a document is made of: signs, scalars, and the marks that the layout of
blocks stands for.
-/

namespace BytecodeViewer

namespace Yaml

inductive Directive where
  | version (major : Int)
  /-- What a handle stands for at the start of tags. -/
  | handle (name meaning : String)
  | other
  deriving DecidableEq, Repr

/-- A tag with its handle, or without one if it is written in full. -/
structure WrittenTag where
  handle : Option String
  suffix : String
  deriving DecidableEq, Repr

inductive Token where
  | directive (d : Directive)
  | documentStart
  | documentEnd
  | blockSequenceStart
  | blockMappingStart
  | blockEnd
  | flowSequenceStart
  | flowSequenceEnd
  | flowMappingStart
  | flowMappingEnd
  | blockEntry
  | flowEntry
  | key
  | value
  | alias (name : String)
  | anchor (name : String)
  | tag (t : WrittenTag)
  | scalar (text : String) (isPlain : Bool)
  | streamEnd
  deriving DecidableEq, Repr

/-! ## Anchors, tags and directives -/

open Scan

def isNameChar (c : Char) : Bool :=
  c.isAlphanum || c == '-' || c == '_'

def anchorName : Scan String := do
  skip 1
  let name ← takeWhile isNameChar
  let c ← peek
  if name.isEmpty || !(endsWord c || "?:,]\x7d%@\x60".toList.contains c) then malformed
  return String.ofList name

def isTagChar (c : Char) : Bool :=
  c.isAlphanum || "-;/?:@&=+$,_.!~*'()[]".toList.contains c

def percentBytes : Nat → Scan (List UInt8)
  | 0 => return []
  | fuel + 1 => do
    if (← peek) != '%' then return []
    skip 1
    let digits := (← get).rest.take 2
    match digits.mapM (Text.digitIn? 16) with
    | some [high, low] =>
      skip 2
      return (high * 16 + low).toUInt8 :: (← percentBytes fuel)
    | _ => malformed

/-- The text of a tag, with the characters that are written as bytes.  The bytes of a
run have to be whole characters. -/
def tagText : Nat → Scan (List Char)
  | 0 => return []
  | fuel + 1 => do
    let run ← takeWhile isTagChar
    if (← peek) == '%' then
      let bytes ← percentBytes (← Scan.fuel)
      match String.fromUTF8? (ByteArray.mk bytes.toArray) with
      | some s => return run ++ s.toList ++ (← tagText fuel)
      | none => malformed
    else return run

def someTagText : Scan String := do
  let before := (← get).index
  let text ← tagText (← fuel)
  if (← get).index == before then malformed
  return String.ofList text

def tagHandle : Scan String := do
  if (← peek) != '!' then malformed
  skip 1
  if (← peek) == ' ' then return "!"
  let name ← takeWhile isNameChar
  if (← peek) != '!' then malformed
  skip 1
  return String.ofList ('!' :: name ++ ['!'])

/-- Whether a second sign comes before the end of the word, so that the first one
begins a handle. -/
def hasHandle (rest : List Char) : Bool :=
  (rest.drop 1).takeWhile (fun c => c == '\t' || !endsWord c) |>.contains '!'

def writtenTag : Scan WrittenTag := do
  let c ← get
  let tag : WrittenTag ←
    if c.ahead 1 == '<' then do
      skip 2
      let suffix ← someTagText
      if (← peek) != '>' then malformed
      skip 1
      pure ⟨none, suffix⟩
    else if endsWord (c.ahead 1) then do
      skip 1
      pure ⟨none, "!"⟩
    else if hasHandle c.rest then do
      let handle ← tagHandle
      pure ⟨some handle, ← someTagText⟩
    else do
      skip 1
      pure ⟨some "!", ← someTagText⟩
  unless (← peek) == ' ' || endsLine (← peek) do
    malformed
  return tag

def number : Scan Int := do
  let run ← takeWhile Char.isDigit
  if run.isEmpty then malformed
  match Text.parseInteger 10 (String.ofList run) with
  | .ok n => return n
  | .error why => throw (.value (.numeral why))

def versionDirective : Scan Directive := do
  skipWhile (· == ' ')
  let major ← number
  if (← peek) != '.' then malformed
  skip 1
  let _ ← number
  unless (← peek) == ' ' || endsLine (← peek) do
    malformed
  return .version major

def handleDirective : Scan Directive := do
  skipWhile (· == ' ')
  let name ← tagHandle
  if (← peek) != ' ' then malformed
  skipWhile (· == ' ')
  let meaning ← someTagText
  unless (← peek) == ' ' || endsLine (← peek) do
    malformed
  return .handle name meaning

def directive : Scan Directive := do
  skip 1
  let name ← takeWhile isNameChar
  if name.isEmpty then malformed
  unless (← peek) == ' ' || endsLine (← peek) do
    malformed
  let d ←
    if name == "YAML".toList then versionDirective
    else if name == "TAG".toList then handleDirective
    else do
      skipWhile (!isBreak ·)
      pure .other
  skipRestOfLine
  return d

end Yaml

end BytecodeViewer
