/-!
# Positions in 16-bit units

Text controls count positions in 16-bit units, while the offsets of a document
count characters.  A character beyond the first 65536 takes two units.
-/

namespace BytecodeViewer.Text

def units16 (c : Char) : Nat :=
  if c.toNat ≤ 0xFFFF then 1 else 2

def isWide16 (c : Char) : Bool :=
  !(c.toNat ≤ 0xFFFF)

/-- The units of each beginning of a text, from none of it to all of it. -/
def unitPositions : List Char → List Nat
  | [] => [0]
  | c :: cs => 0 :: (unitPositions cs).map (units16 c + ·)

/-- Position in 16-bit units of an offset in characters.  A text without
characters of two units keeps every offset; otherwise only offsets inside the
text, its end included, have a position. -/
def unitPosition? (cs : List Char) (offset : Nat) : Option Nat :=
  if cs.any isWide16 then (unitPositions cs)[offset]? else some offset

end BytecodeViewer.Text
