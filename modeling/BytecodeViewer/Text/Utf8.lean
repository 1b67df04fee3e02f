import BytecodeViewer.Text.Quoted

/-!
# Reading UTF-8

Bytes are read strictly.  The first fault is told with the bytes that it covers:
the longest beginning of a character that is still well formed, or one byte.
-/

namespace BytecodeViewer.Text

inductive Utf8Reason where
  | badStart
  | badContinuation
  | unexpectedEnd
  deriving DecidableEq, Repr

def Utf8Reason.message : Utf8Reason → String
  | badStart => "invalid start byte"
  | badContinuation => "invalid continuation byte"
  | unexpectedEnd => "unexpected end of data"

/-- The bytes from `start` on, `length` many, are no character; the first is `byte`. -/
structure Utf8Fault where
  start : Nat
  length : Nat
  byte : UInt8
  reason : Utf8Reason
  deriving DecidableEq, Repr

def Utf8Fault.message (f : Utf8Fault) : String :=
  let told :=
    if f.length = 1 then
      "byte 0x" ++ String.ofList (hexDigits 2 f.byte.toNat) ++ " in position " ++ toString f.start
    else
      "bytes in position " ++ toString f.start ++ "-" ++ toString (f.start + f.length - 1)
  "'utf-8' codec can't decode " ++ told ++ ": " ++ f.reason.message

def isContinuation (b : UInt8) : Bool := 0x80 ≤ b && b < 0xC0

/-- Whether a second byte may follow a first one.  Some first bytes narrow its range,
so that no character has two forms and none is a surrogate or too large. -/
def maySecond (first second : UInt8) : Bool :=
  isContinuation second &&
    !(first == 0xE0 && second < 0xA0) && !(first == 0xED && 0xA0 ≤ second) &&
    !(first == 0xF0 && second < 0x90) && !(first == 0xF4 && 0x90 ≤ second)

def sequenceLength? (b : UInt8) : Option Nat :=
  if b < 0x80 then some 1
  else if b < 0xC2 then none
  else if b < 0xE0 then some 2
  else if b < 0xF0 then some 3
  else if b < 0xF5 then some 4
  else none

/-- How many of the bytes after the first are as they should be. -/
def wellFormedTail (first : UInt8) (tail : List UInt8) : Nat :=
  match tail with
  | [] => 0
  | b :: rest => if maySecond first b then 1 + (rest.takeWhile isContinuation).length else 0

def leadBits (length : Nat) (b : UInt8) : Nat :=
  if length = 1 then b.toNat else b.toNat % (1 <<< (7 - length))

/-- The first character of bytes and how many of them it takes. -/
def readUtf8Char (first : UInt8) (rest : List UInt8) : Except Utf8Fault (Char × Nat) :=
  match sequenceLength? first with
  | none => .error ⟨0, 1, first, .badStart⟩
  | some length =>
    let tail := rest.take (length - 1)
    let good := wellFormedTail first tail
    if good < tail.length then .error ⟨0, good + 1, first, .badContinuation⟩
    else if good < length - 1 then .error ⟨0, good + 1, first, .unexpectedEnd⟩
    else
      let code := tail.foldl (fun n b => n * 64 + b.toNat % 64) (leadBits length first)
      .ok (Char.ofNat code, length)

/-- Reads characters from a position on; `fuel` bounds their number. -/
def readUtf8From : Nat → Nat → List UInt8 → Except Utf8Fault (List Char)
  | 0, _, _ => .ok []
  | _, _, [] => .ok []
  | fuel + 1, place, b :: rest =>
    match readUtf8Char b rest with
    | .error f => .error { f with start := place }
    | .ok (c, length) =>
      (readUtf8From fuel (place + length) (rest.drop (length - 1))).map (c :: ·)

def readUtf8 (bytes : List UInt8) : Except Utf8Fault (List Char) :=
  readUtf8From bytes.length 0 bytes

end BytecodeViewer.Text
