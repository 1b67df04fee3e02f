import BytecodeViewer.Text.Case
import BytecodeViewer.Text.Real
import BytecodeViewer.Yaml.Tag

/-!
# Values of scalars

What the text of a scalar denotes under its tag.  A text that is well written may
still denote nothing.
-/

namespace BytecodeViewer

namespace Yaml

inductive Scalar where
  | null
  | bool (b : Bool)
  | int (n : Int)
  | real (x : Float)
  | text (s : String)
  | bytes (bs : List UInt8)
  /-- A date or a date and time; which one does not matter. -/
  | date

def withoutUnderscores (s : String) : String :=
  String.ofList (s.toList.filter (· != '_'))

def splitColons (s : String) : List String :=
  s.splitOn ":"

def sixties (groups : List Int) : Int :=
  groups.foldl (fun n group => n * 60 + group) 0

def parseInteger (base : Nat) (s : String) : Except Fault Int :=
  match Text.parseInteger base s with
  | .ok n => .ok n
  | .error why => .error (.value (.numeral why))

def unsignedInteger (s : String) : Except Fault Int :=
  match s.toList with
  | [] => .error (.value .emptyNumeral)
  | ['0'] => .ok 0
  | '0' :: 'b' :: digits => parseInteger 2 (String.ofList digits)
  | '0' :: 'x' :: digits => parseInteger 16 (String.ofList digits)
  | '0' :: _ => parseInteger 8 s
  | _ =>
    if s.toList.contains ':' then do
      return sixties (← (splitColons s).mapM (parseInteger 10))
    else parseInteger 10 s

def integerOf (s : String) : Except Fault Int :=
  match (withoutUnderscores s).toList with
  | '-' :: rest => (unsignedInteger (String.ofList rest)).map (-·)
  | '+' :: rest => unsignedInteger (String.ofList rest)
  | rest => unsignedInteger (String.ofList rest)

def parseReal (s : String) : Except Fault Float :=
  match Text.readReal? s with
  | some x => .ok x
  | none => .error (.value (.real s))

/-- How many groups of sixty there may be in a number: the power of sixty that goes with
one more group is beyond all binary numbers. -/
def mostGroups : Nat := 174

/-- The value of groups of sixty, given with the last one first; `unit` goes with the next
group. -/
def sumSixties (unit : Nat) (sum : Float) : List Float → Float
  | [] => sum
  | group :: groups => sumSixties (unit * 60) (sum + group * Float.ofNat unit) groups

def realSixties (groups : List Float) : Except Fault Float :=
  if mostGroups < groups.length then .error (.value .tooLarge)
  else .ok (sumSixties 1 0.0 groups.reverse)

def unsignedReal (s : String) : Except Fault Float :=
  if s == ".inf" then .ok Text.infinity
  else if s == ".nan" then .ok Text.notNumber
  else if s.toList.contains ':' then do
    realSixties (← (splitColons s).mapM parseReal)
  else parseReal s

def realOf (s : String) : Except Fault Float :=
  match (Text.lower (withoutUnderscores s)).toList with
  | [] => .error (.value .emptyNumeral)
  | '-' :: rest => (unsignedReal (String.ofList rest)).map (-·)
  | '+' :: rest => unsignedReal (String.ofList rest)
  | rest => unsignedReal (String.ofList rest)

def flagOf (s : String) : Except Fault Bool :=
  match flagWords.lookup (Text.lower s) with
  | some b => .ok b
  | none => .error (.value (.flag (Text.lower s)))

/-! ## Dates -/

def isLeapYear (year : Nat) : Bool :=
  year % 4 == 0 && (year % 100 != 0 || year % 400 == 0)

def daysIn (year month : Nat) : Nat :=
  if month = 2 then (if isLeapYear year then 29 else 28)
  else if month ∈ [4, 6, 9, 11] then 30
  else 31

/-- A time zone may be less than a day away. -/
def checkZone (isNegative : Bool) (hours minutes : Nat) : Except ValueFault Unit :=
  let seconds : Int := (hours * 60 + minutes) * 60
  let offset := if isNegative then -seconds else seconds
  if seconds < 86400 then .ok ()
  else .error (.offset (offset.fdiv 86400) (offset.fmod 86400).toNat)

def checkTime : Nat × Nat × Nat → Except ValueFault Unit
  | (hour, minute, second) => do
    if 23 < hour then throw .hour
    if 59 < minute then throw .minute
    if 59 < second then throw .second

def WrittenDate.check (d : WrittenDate) : Except ValueFault Unit := do
  if let some (isNegative, hours, minutes) := d.zone then
    checkZone isNegative hours minutes
  if d.year < 1 then throw (.year d.year)
  if d.month < 1 ∨ 12 < d.month then throw .month
  if d.day < 1 ∨ daysIn d.year d.month < d.day then throw .day
  if let some time := d.time then
    checkTime time

def dateOf (s : String) : Except Fault Unit :=
  match writtenDate? (beforeFinalBreak s.toList) with
  | none => .error (.value .noDate)
  | some d => d.check.mapError .value

/-! ## Bytes -/

def sixBits? (c : Char) : Option Nat :=
  if 'A' ≤ c && c ≤ 'Z' then some (c.toNat - 65)
  else if 'a' ≤ c && c ≤ 'z' then some (c.toNat - 71)
  else if '0' ≤ c && c ≤ '9' then some (c.toNat + 4)
  else if c == '+' then some 62
  else if c == '/' then some 63
  else none

/-- Bytes after `quad` letters of a group of four with the bits `bits`, and `pads` signs
of padding.  Other characters are skipped. -/
def bytesFrom (quad pads bits : Nat) : List Char → Option (List UInt8)
  | [] => if quad = 0 then some [] else none
  | c :: cs =>
    if c == '=' then
      if 2 ≤ quad ∧ 4 ≤ quad + pads + 1 then some []
      else bytesFrom quad (if 2 ≤ quad then pads + 1 else pads) bits cs
    else
      match sixBits? c, quad with
      | none, _ => bytesFrom quad pads bits cs
      | some v, 0 => bytesFrom 1 0 v cs
      | some v, 1 => (bytesFrom 2 0 (v % 16) cs).map ((bits * 4 + v / 16).toUInt8 :: ·)
      | some v, 2 => (bytesFrom 3 0 (v % 4) cs).map ((bits * 16 + v / 4).toUInt8 :: ·)
      | some v, _ => (bytesFrom 0 0 0 cs).map ((bits * 64 + v).toUInt8 :: ·)

def bytesOf (s : String) : Except Fault (List UInt8) :=
  if s.toList.all (·.toNat < 0x80) then
    match bytesFrom 0 0 0 s.toList with
    | some bs => .ok bs
    | none => .error .malformed
  else .error .malformed

/-! ## Scalars -/

def Tag.isScalar : Tag → Bool
  | .null | .bool | .int | .float | .binary | .timestamp | .text => true
  | _ => false

def Tag.isCollection : Tag → Bool
  | .sequence | .mapping | .set | .orderedMap | .pairs => true
  | _ => false

def Scalar.ofText (tag : Tag) (s : String) : Except Fault Scalar :=
  match tag with
  | .null => .ok .null
  | .bool => (flagOf s).map .bool
  | .int => (integerOf s).map .int
  | .float => (realOf s).map .real
  | .binary => (bytesOf s).map .bytes
  | .timestamp => (dateOf s).map fun _ => .date
  | .text => .ok (.text s)
  | _ => .error .malformed

end Yaml

end BytecodeViewer
