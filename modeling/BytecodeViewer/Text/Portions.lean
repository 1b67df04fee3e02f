import BytecodeViewer.Text.Utf8

/-!
# Reading UTF-8 in portions

The bytes of a file are read portion by portion.  A character that a portion cuts in
two is read with the next one, and the place of a fault is counted from the first
byte that was read last.
-/

namespace BytecodeViewer.Text

def portionSize : Nat := 8192

/-- Reads `rest` after bytes that await their continuation; `fuel` bounds the portions. -/
def readPortionsFrom : Nat → List UInt8 → List UInt8 → Except Utf8Fault (List Char)
  | 0, _, _ => .ok []
  | fuel + 1, cut, rest =>
    let bytes := cut ++ rest.take portionSize
    match readUtf8 bytes with
    | .ok cs =>
      if rest.isEmpty then .ok cs
      else (readPortionsFrom fuel [] (rest.drop portionSize)).map (cs ++ ·)
    | .error f =>
      if f.reason = .unexpectedEnd ∧ rest ≠ [] then do
        let cs ← readUtf8 (bytes.take f.start)
        let further ← readPortionsFrom fuel (bytes.drop f.start) (rest.drop portionSize)
        return cs ++ further
      else .error f

def readPortions (bytes : List UInt8) : Except Utf8Fault (List Char) :=
  readPortionsFrom (bytes.length / portionSize + 3) [] bytes

def unifyBreaks : List Char → List Char
  | '\r' :: '\n' :: cs => '\n' :: unifyBreaks cs
  | '\r' :: cs => '\n' :: unifyBreaks cs
  | c :: cs => c :: unifyBreaks cs
  | [] => []

end BytecodeViewer.Text
