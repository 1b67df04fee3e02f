/-!
# Sets of code points

A set of characters is a list of inclusive ranges of code points.
-/

namespace BytecodeViewer.Text

abbrev Ranges := List (Nat × Nat)

def Ranges.has (rs : Ranges) (c : Char) : Bool :=
  rs.any fun (first, last) => first ≤ c.toNat && c.toNat ≤ last

end BytecodeViewer.Text
