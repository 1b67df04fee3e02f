import BytecodeViewer.Text.Numeral

/-!
# Numbers in bytes

Containers store numbers with the least byte first.  A slice that reaches beyond
the end is cut there.
-/

namespace BytecodeViewer

abbrev Bytes := ByteArray

namespace Bytes

/-- The bytes from `start` on, at most `length` of them. -/
def slice (b : Bytes) (start length : Nat) : Bytes :=
  b.extract start (start + length)

def byteAt (b : Bytes) (i : Nat) : Nat :=
  match b[i]? with
  | some x => x.toNat
  | none => 0

/-- The number in `count` bytes from `start` on, bytes beyond the end counting as zero. -/
def number (b : Bytes) (start : Nat) : Nat → Nat
  | 0 => 0
  | count + 1 => b.byteAt start + 256 * b.number (start + 1) count

def ofList (bs : List UInt8) : Bytes :=
  ⟨bs.toArray⟩

def toByteList (b : Bytes) : List UInt8 :=
  b.data.toList

def hex (b : Bytes) : String :=
  String.ofList (b.toByteList.flatMap fun x => Text.hexDigits 2 x.toNat)

/-- Bytes from pairs of digits; a pair that is no number counts as zero. -/
def ofHexChars : List Char → List UInt8
  | high :: low :: rest =>
    ((Text.readDigits? 16 0 [high, low]).getD 0).toUInt8 :: ofHexChars rest
  | _ => []

def ofHex (s : String) : Bytes :=
  ofList (ofHexChars s.toList)

def ofText (s : String) : Bytes :=
  s.toUTF8

def hasAt (b : Bytes) (start : Nat) (part : List Nat) : Bool :=
  start + part.length ≤ b.size &&
    (List.range part.length).all fun k => b.byteAt (start + k) == part.getD k 0

/-- The number in `count` bytes from `start` on, with the greatest byte first. -/
def bigNumber (b : Bytes) (start count : Nat) : Nat :=
  (List.range count).foldl (fun n k => n * 256 + b.byteAt (start + k)) 0

def pushTimes (x : UInt8) : Nat → Bytes → Bytes
  | 0, out => out
  | count + 1, out => pushTimes x count (out.push x)

/-- Appends `count` bytes, each the one `distance` before the end. -/
def copyBack (distance : Nat) : Nat → Bytes → Bytes
  | 0, out => out
  | count + 1, out =>
    copyBack distance count (out.push (out.byteAt (out.size - distance)).toUInt8)

/-- The last of the positions from `first` on, `count` many, where a sequence stands. -/
def lastPosition? (b : Bytes) (part : List Nat) (first : Nat) : Nat → Option Nat
  | 0 => none
  | count + 1 =>
    if b.hasAt (first + count) part then some (first + count)
    else b.lastPosition? part first count

end Bytes

/-- What unpacking bytes comes to: the output, and whether the packed data has ended. -/
structure Unpacked where
  output : Bytes
  ended : Bool

end BytecodeViewer
