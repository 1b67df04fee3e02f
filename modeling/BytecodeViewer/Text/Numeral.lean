import BytecodeViewer.Text.Blank
import BytecodeViewer.Text.Digit
import BytecodeViewer.Text.Quoted

/-!
# Numerals

An integer is read leniently: blanks around it, a sign, single underscores
between digits and the decimal digits of any script are allowed.  Bases two,
eight and sixteen also allow their marks, such as `0x`.
-/

namespace BytecodeViewer.Text

/-- Replaces blanks and decimal digits beyond ASCII by their ASCII forms, and any
other character beyond ASCII by a question mark. -/
def asciiForm (c : Char) : Char :=
  if c.toNat < 0x7F then c
  else if isBlank c then ' '
  else match digitValue? c with
    | some d => Char.ofNat (48 + d)
    | none => '?'

/-- The value of an ASCII digit or letter in bases up to sixteen. -/
def digitIn? (base : Nat) (c : Char) : Option Nat :=
  let v? :=
    if '0' ≤ c && c ≤ '9' then some (c.toNat - 48)
    else if 'a' ≤ c && c ≤ 'f' then some (c.toNat - 87)
    else if 'A' ≤ c && c ≤ 'F' then some (c.toNat - 55)
    else none
  v?.bind fun v => if v < base then some v else none

def readDigits? (base : Nat) (acc : Nat) : List Char → Option Nat
  | [] => some acc
  | ['_'] => none
  | '_' :: c :: cs =>
    match digitIn? base c with
    | some d => readDigits? base (acc * base + d) cs
    | none => none
  | c :: cs =>
    match digitIn? base c with
    | some d => readDigits? base (acc * base + d) cs
    | none => none

def baseMark? : Nat → Option Char
  | 2 => some 'b'
  | 8 => some 'o'
  | 16 => some 'x'
  | _ => none

def dropBaseMark (base : Nat) : List Char → List Char
  | '0' :: c :: rest =>
    if some c.toLower = baseMark? base then
      match rest with
      | '_' :: digits => digits
      | _ => rest
    else '0' :: c :: rest
  | cs => cs

def readNatural? (base : Nat) (cs : List Char) : Option Nat :=
  match dropBaseMark base cs with
  | [] => none
  | '_' :: _ => none
  | digits => readDigits? base 0 digits

def readInteger? (base : Nat) (s : String) : Option Int :=
  let cs := s.toList
  let ascii := if cs.all (·.toNat < 0x80) then cs else cs.map asciiForm
  match trimBy isAsciiBlank ascii with
  | '-' :: rest => (readNatural? base rest).map fun n => -(n : Int)
  | '+' :: rest => (readNatural? base rest).map fun n => (n : Int)
  | rest => (readNatural? base rest).map fun n => (n : Int)

/-- Why a text was not read as an integer. -/
inductive BadNumeral where
  | notNumeral (base : Nat) (text : String)
  | tooManyDigits (count : Nat)
  deriving DecidableEq

def maxDigits : Nat := 4300

/-- The quoted text is cut after two hundred characters. -/
def BadNumeral.message : BadNumeral → String
  | notNumeral base text =>
    "invalid literal for int() with base " ++ toString base ++ ": " ++
      String.ofList ((quoted text).toList.take 200)
  | tooManyDigits count =>
    "Exceeds the limit (" ++ toString maxDigits ++
      " digits) for integer string conversion: value has " ++ toString count ++
      " digits; use sys.set_int_max_str_digits() to increase the limit"

/-- The digits at the start of a decimal numeral, its sign left out. -/
def leadingDigits (s : String) : Nat :=
  let body := match trimBy isAsciiBlank (s.toList.map asciiForm) with
    | '-' :: rest => rest
    | '+' :: rest => rest
    | rest => rest
  ((body.takeWhile fun c => c == '_' || (digitIn? 10 c).isSome).filter (· != '_')).length

def parseInteger (base : Nat) (s : String) : Except BadNumeral Int :=
  if base = 10 ∧ maxDigits < leadingDigits s then .error (.tooManyDigits (leadingDigits s))
  else match readInteger? base s with
    | some n => .ok n
    | none => .error (.notNumeral base s)

end BytecodeViewer.Text
