import BytecodeViewer.Text.Printable

/-!
# Quoted text

A text is quoted with single quotes, or with double quotes when it holds a
single quote and no double quote.  Backslashes, the enclosing quote and
characters that do not print are escaped.
-/

namespace BytecodeViewer.Text

def hexDigit (n : Nat) : Char :=
  if n < 10 then Char.ofNat (48 + n) else Char.ofNat (87 + n)

/-- The last `width` digits of `n` in base sixteen. -/
def hexDigits : Nat → Nat → List Char
  | 0, _ => []
  | width + 1, n => hexDigits width (n / 16) ++ [hexDigit (n % 16)]

/-- An escape by code point, of the shortest of the three lengths that holds it. -/
def escapeCode (n : Nat) : List Char :=
  if n < 0x100 then '\\' :: 'x' :: hexDigits 2 n
  else if n < 0x10000 then '\\' :: 'u' :: hexDigits 4 n
  else '\\' :: 'U' :: hexDigits 8 n

def quoteChar (quote : Char) (c : Char) : List Char :=
  if c == quote || c == '\\' then ['\\', c]
  else if c == '\n' then ['\\', 'n']
  else if c == '\r' then ['\\', 'r']
  else if c == '\t' then ['\\', 't']
  else if isPrintable c then [c]
  else escapeCode c.toNat

def enclosingQuote (cs : List Char) : Char :=
  if cs.contains '\'' && !cs.contains '"' then '"' else '\''

def quotedChars (cs : List Char) : List Char :=
  let q := enclosingQuote cs
  q :: cs.flatMap (quoteChar q) ++ [q]

def quoted (s : String) : String :=
  String.ofList (quotedChars s.toList)

/-- Quoted bytes carry the mark `b`, and only ASCII is shown as it is. -/
def quotedBytes (bs : List UInt8) : String :=
  let cs := bs.map fun b => Char.ofNat b.toNat
  let q := enclosingQuote cs
  let body := cs.flatMap fun c =>
    if c.toNat < 0x80 then quoteChar q c else escapeCode c.toNat
  String.ofList ('b' :: q :: body ++ [q])

end BytecodeViewer.Text
