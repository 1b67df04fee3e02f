import BytecodeViewer.Text.Numeral

/-!
# Colours

A colour has three channels from 0 to 255.  It is read from six digits of base
sixteen, each pair read as a lenient integer, and written as `#` with six
lower-case digits.
-/

namespace BytecodeViewer

structure Color where
  red : UInt8
  green : UInt8
  blue : UInt8
  deriving DecidableEq, Repr, Inhabited

/-- Why a colour was refused. -/
inductive ColorError where
  | malformed (text : String)
  | badPair (why : Text.BadNumeral)
  | outOfRange (channel : Int)
  deriving DecidableEq

def ColorError.message : ColorError → String
  | malformed text => "Expected #rrggbb color, got " ++ Text.quoted text
  | badPair why => why.message
  | outOfRange channel => "Color channel out of range: " ++ toString channel

namespace Color

def channel (n : Int) : Except ColorError UInt8 :=
  if 0 ≤ n ∧ n ≤ 255 then .ok n.toNat.toUInt8 else .error (.outOfRange n)

def ofChannels (red green blue : Int) : Except ColorError Color := do
  let r ← channel red
  let g ← channel green
  let b ← channel blue
  return ⟨r, g, b⟩

def readPair (cs : List Char) : Except ColorError Int :=
  match Text.parseInteger 16 (String.ofList cs) with
  | .ok n => .ok n
  | .error e => .error (.badPair e)

/-- Any number of `#` may stand before the six digits. -/
def parse (s : String) : Except ColorError Color := do
  let digits := s.toList.dropWhile (· == '#')
  if digits.length ≠ 6 then
    throw (.malformed s)
  let red ← readPair (digits.take 2)
  let green ← readPair ((digits.drop 2).take 2)
  let blue ← readPair (digits.drop 4)
  ofChannels red green blue

def hexChars (c : Color) : List Char :=
  '#' :: Text.hexDigits 2 c.red.toNat ++ Text.hexDigits 2 c.green.toNat ++
    Text.hexDigits 2 c.blue.toNat

def hex (c : Color) : String :=
  String.ofList c.hexChars

end Color

end BytecodeViewer
