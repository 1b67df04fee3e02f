import BytecodeViewer.Path
import BytecodeViewer.Settings.Issue
import BytecodeViewer.Text.Blank
import BytecodeViewer.Text.Case
import BytecodeViewer.Text.Numeral
import BytecodeViewer.Text.Utf8

/-!
# Values for settings

What may be given for a setting, and which of it is accepted.  Numbers are accepted
in several forms, as long as they are whole.
-/

namespace BytecodeViewer

inductive SettingValue where
  | null
  | bool (b : Bool)
  | int (n : Int)
  | real (x : Float)
  | text (s : String)
  | bytes (bs : List UInt8)
  | list (items : List SettingValue)
  /-- A mapping, by the number of its entries. -/
  | map (size : Nat)
  | other
  deriving Inhabited

namespace SettingValue

def acceptText : SettingValue → Except IssueCause String
  | .text s => .ok s
  | .bytes bs =>
    match Text.readUtf8 bs with
    | .ok cs => .ok (String.ofList cs)
    | .error _ => .error .notUnicode
  | _ => .error .notText

def acceptTextOrNull : SettingValue → Except IssueCause (Option String)
  | .null => .ok none
  | v => v.acceptText.map some

def acceptFullText (v : SettingValue) : Except IssueCause String := do
  let s ← v.acceptText
  if s = "" then throw .empty
  return s

def isNothing : SettingValue → Bool
  | .null => true
  | .bool b => !b
  | .int n => n == 0
  | .real x => x == 0.0
  | .text s => s == ""
  | .bytes bs => bs.isEmpty
  | .list items => items.isEmpty
  | .map size => size == 0
  | .other => false

def acceptPathOrNull (v : SettingValue) : Except IssueCause (Option Path) :=
  if v.isNothing then .ok none
  else
    match v with
    | .text s => .ok (some (Path.ofText s))
    | _ => .error .notPath

/-! ## Whole numbers -/

def isOuterBlank (c : Char) : Bool :=
  Text.isBlank c && !(0x1C ≤ c.toNat && c.toNat ≤ 0x1F)

def dropZeroPlaces (cs : List Char) : List Char :=
  let whole := cs.takeWhile (· != '.')
  match cs.drop whole.length with
  | '.' :: '0' :: zeros => if zeros.all (· == '0') then whole else cs
  | _ => cs

def readWhole? (cs : List Char) : Option Nat :=
  match dropZeroPlaces cs with
  | c :: rest => if c.isDigit then Text.readDigits? 10 0 (c :: rest) else none
  | [] => none

def wholeOfText (s : String) : Except IssueCause Int :=
  let found := match Text.trimBy isOuterBlank s.toList with
    | '-' :: rest => (readWhole? rest).map fun n => -(n : Int)
    | '+' :: rest => (readWhole? rest).map fun n => (n : Int)
    | rest => (readWhole? rest).map fun n => (n : Int)
  match found with
  | none => .error .notNumeral
  | some n => if Nat.pow 10 Text.maxDigits ≤ n.natAbs then .error .tooLarge else .ok n

/-- A number without a fraction, as long as it takes no more than 64 bits. -/
def wholeOfReal (x : Float) : Except IssueCause Int :=
  if x.isNaN || x.isInf then .error .notFinite
  else if x != x.floor then .error .fraction
  else if x.abs < 9223372036854775808.0 then .ok x.toInt64.toInt
  else .error .tooLarge

def acceptInt : SettingValue → Except IssueCause Int
  | .int n => .ok n
  | .bool b => .ok (if b then 1 else 0)
  | .real x => wholeOfReal x
  | .text s => wholeOfText s
  | .bytes bs =>
    match Text.readUtf8 bs with
    | .ok cs => wholeOfText (String.ofList cs)
    | .error _ => .error .notNumeral
  | _ => .error .notInteger

def acceptIntWithin (least greatest : Int) (v : SettingValue) : Except IssueCause Int := do
  let n ← v.acceptInt
  if n < least then throw (.below least)
  if greatest < n then throw (.above greatest)
  return n

/-! ## Flags -/

def onWords : List String := ["1", "true", "yes", "on"]

/-- Whether a text is one of the words, in any case and with blanks around it. -/
def isOn (s : String) : Bool :=
  onWords.contains (Text.lower (Text.trim s))

def flagOfWhole (n : Int) : Except IssueCause Bool :=
  if n = 0 then .ok false else if n = 1 then .ok true else .error .notFlagValue

/-- A flag; a text is one that is on or off. -/
def acceptFlag : SettingValue → Except IssueCause Bool
  | .null => .ok false
  | .bool b => .ok b
  | .text s => .ok (isOn s)
  | .int n =>
    if -0x8000000000000000 ≤ n ∧ n < 0x8000000000000000 then flagOfWhole n else .error .notFlag
  | .real x =>
    match wholeOfReal x with
    | .ok n => flagOfWhole n
    | .error _ => .error .notFlag
  | _ => .error .notFlag

end SettingValue

end BytecodeViewer
