import BytecodeViewer.Archive.Bytes

/-!
# Prefix codes

No code of a prefix code begins another one.  The codes follow from their lengths: shorter
ones come first, and those of one length are in the order of their symbols.
-/

namespace BytecodeViewer

/-- How many codes there are of each length from one on, and the symbols in the order of
their codes. -/
structure PrefixCode where
  counts : List Nat
  symbols : Array Nat
  deriving DecidableEq, Repr

namespace PrefixCode

/-- The code in which each symbol has the given length, none if that is zero. -/
def ofLengths (longest : Nat) (lengths : List Nat) : PrefixCode :=
  let numbered := lengths.zipIdx
  let ofLength (n : Nat) : List Nat := (numbered.filter (·.1 == n)).map (·.2)
  let lens := List.range' 1 longest
  { counts := lens.map fun n => (ofLength n).length
    symbols := (lens.flatMap ofLength).toArray }

/-- The number of codes of the next length that are left when those of some lengths
have been given out, negative if there are too many of them. -/
def left : List Nat → Int → Int
  | [], n => n
  | c :: cs, n => if 2 * n < c then -1 else left cs (2 * n - c)

def longest (c : PrefixCode) : Nat :=
  (c.counts.reverse.dropWhile (· == 0)).length

def isComplete (c : PrefixCode) : Bool :=
  left c.counts 1 == 0

/-- Reads bit by bit until the bits are a code, of one of the lengths with the given counts.
`first` is the first code of this length and `index` the number of shorter ones. -/
@[specialize] def decodeFrom {m : Type → Type} [Monad m] (c : PrefixCode) (bit : m Nat) :
    List Nat → (code first index : Nat) → m (Option Nat)
  | [], _, _, _ => return none
  | count :: counts, code, first, index => do
    let code := code + (← bit)
    if code < first + count then return c.symbols[index + (code - first)]?
    else decodeFrom c bit counts (2 * code) (2 * (first + count)) (index + count)

end PrefixCode

end BytecodeViewer
