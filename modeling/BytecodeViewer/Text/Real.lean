import BytecodeViewer.Text.Numeral

/-!
# Decimal fractions

A number with a point or an exponent is read as the nearest binary number of 64
bits.  Words for infinity and for no number are read too.
-/

namespace BytecodeViewer.Text

def infinity : Float := 1.0 / 0.0

def notNumber : Float := 0.0 / 0.0

/-- The number `m` times ten to the power `e`.  Powers beyond the range of binary
numbers are not computed. -/
def realOfScientific (m : Nat) (e : Int) : Float :=
  let magnitude : Int := (Nat.toDigits 10 m).length + e
  if m = 0 ∨ magnitude < -400 then 0.0
  else if 400 < magnitude then infinity
  else if 0 ≤ e then Float.ofScientific m false e.toNat
  else Float.ofScientific m true (-e).toNat

def readExponent? : List Char → Option Int
  | [] => some 0
  | c :: cs =>
    if c = 'e' ∨ c = 'E' then
      match cs with
      | '-' :: ds => if ds.isEmpty then none else (readDigits? 10 0 ds).map fun n => -(n : Int)
      | '+' :: ds => if ds.isEmpty then none else (readDigits? 10 0 ds).map fun n => (n : Int)
      | ds => if ds.isEmpty then none else (readDigits? 10 0 ds).map fun n => (n : Int)
    else none

def readFraction? (cs : List Char) : Option Float :=
  let whole := cs.takeWhile Char.isDigit
  let rest := cs.drop whole.length
  let (places, rest) := match rest with
    | '.' :: rest => (rest.takeWhile Char.isDigit, rest.dropWhile Char.isDigit)
    | _ => ([], rest)
  if whole.isEmpty && places.isEmpty then none
  else do
    let e ← readExponent? rest
    let m ← readDigits? 10 0 (whole ++ places)
    return realOfScientific m (e - places.length)

def readUnsignedReal? (cs : List Char) : Option Float :=
  let word := String.ofList (cs.map Char.toLower)
  if word == "inf" || word == "infinity" then some infinity
  else if word == "nan" then some notNumber
  else readFraction? cs

def readReal? (s : String) : Option Float :=
  match trimBy isAsciiBlank (s.toList.map asciiForm) with
  | '-' :: rest => (readUnsignedReal? rest).map (-·)
  | '+' :: rest => readUnsignedReal? rest
  | rest => readUnsignedReal? rest

end BytecodeViewer.Text
