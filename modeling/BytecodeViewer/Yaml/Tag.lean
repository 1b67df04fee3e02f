import BytecodeViewer.Yaml.Token

/-!
# Tags

A tag tells the kind of a node.  A plain scalar without one has the tag of the
first form that its text has, such as that of an integer.
-/

namespace BytecodeViewer

namespace Yaml

inductive Tag where
  | null
  | bool
  | int
  | float
  | binary
  | timestamp
  | text
  | sequence
  | mapping
  | set
  | orderedMap
  | pairs
  | merge
  | defaultValue
  | unknown
  deriving DecidableEq, Repr

namespace Tag

def core : String := "tag:yaml.org,2002:"

def named : List (String × Tag) :=
  [("null", null), ("bool", bool), ("int", int), ("float", float), ("binary", binary),
    ("timestamp", timestamp), ("str", text), ("seq", sequence), ("map", mapping), ("set", set),
    ("omap", orderedMap), ("pairs", pairs), ("merge", merge), ("value", defaultValue)]

def ofText (s : String) : Tag :=
  ((named.map fun (name, t) => (core ++ name, t)).lookup s).getD unknown

end Tag

/-! ## Forms of plain scalars -/

def isBinaryDigit (c : Char) : Bool := c == '0' || c == '1' || c == '_'

def isOctalDigit (c : Char) : Bool := ('0' ≤ c && c ≤ '7') || c == '_'

def isDecimalDigit (c : Char) : Bool := c.isDigit || c == '_'

def isHexDigit (c : Char) : Bool := (Text.digitIn? 16 c).isSome || c == '_'

def dropSign : List Char → List Char
  | '-' :: cs => cs
  | '+' :: cs => cs
  | cs => cs

/-- Groups of one or two digits below sixty, each behind a colon. -/
def isSixties : List Char → Bool
  | [':', a] => a.isDigit
  | ':' :: a :: ':' :: rest => a.isDigit && isSixties (':' :: rest)
  | ':' :: a :: b :: rest =>
    '0' ≤ a && a ≤ '5' && b.isDigit && (rest.isEmpty || isSixties rest)
  | _ => false

/-- Digits and underscores that begin with a digit from one to nine, or a zero alone. -/
def isDecimalNumber : List Char → Bool
  | ['0'] => true
  | c :: cs => '1' ≤ c && c ≤ '9' && cs.all isDecimalDigit
  | [] => false

def isSixtyNumber (cs : List Char) : Bool :=
  let first := cs.takeWhile (· != ':')
  first != ['0'] && isDecimalNumber first && isSixties (cs.drop first.length)

def isInteger (cs : List Char) : Bool :=
  let cs := dropSign cs
  isDecimalNumber cs || isSixtyNumber cs ||
    match cs with
    | '0' :: 'b' :: rest => !rest.isEmpty && rest.all isBinaryDigit
    | '0' :: 'x' :: rest => !rest.isEmpty && rest.all isHexDigit
    | '0' :: rest => !rest.isEmpty && rest.all isOctalDigit
    | _ => false

def isExponent : List Char → Bool
  | [] => true
  | e :: sign :: rest =>
    (e == 'e' || e == 'E') && (sign == '-' || sign == '+') && !rest.isEmpty && rest.all Char.isDigit
  | _ => false

def isPointNumber (cs : List Char) : Bool :=
  let whole := cs.takeWhile isDecimalDigit
  match whole, cs.drop whole.length with
  | d :: _, '.' :: rest => d.isDigit && isExponent (rest.dropWhile isDecimalDigit)
  | _, _ => false

def isSixtyPointNumber (cs : List Char) : Bool :=
  let before := cs.takeWhile (· != '.')
  let first := before.takeWhile (· != ':')
  first.head?.any Char.isDigit && first.all isDecimalDigit &&
    isSixties (before.drop first.length) &&
    match cs.drop before.length with
    | '.' :: rest => rest.all isDecimalDigit
    | _ => false

def isFloat (cs : List Char) : Bool :=
  let unsigned := dropSign cs
  isPointNumber unsigned || isSixtyPointNumber unsigned ||
    [".inf", ".Inf", ".INF"].contains (String.ofList unsigned) ||
    [".nan", ".NaN", ".NAN"].contains (String.ofList cs) ||
    match cs with
    | '.' :: d :: rest => d.isDigit && isExponent (rest.dropWhile isDecimalDigit)
    | _ => false

def flagWords : List (String × Bool) :=
  [("yes", true), ("no", false), ("true", true), ("false", false), ("on", true), ("off", false)]

def capitalize (s : String) : String :=
  match s.toList with
  | [] => ""
  | c :: cs => String.ofList (c.toUpper :: cs)

def isFlag (s : String) : Bool :=
  flagWords.any fun (word, _) => s == word || s == capitalize word || s == word.map Char.toUpper

/-! ## Dates and times -/

/-- A date, with a time of day and the sign, hours and minutes of a time zone. -/
structure WrittenDate where
  year : Nat
  month : Nat
  day : Nat
  time : Option (Nat × Nat × Nat) := none
  zone : Option (Bool × Nat × Nat) := none
  deriving DecidableEq, Repr

/-- Between `least` and `most` digits, as many as there are. -/
def takeDigits? (least most : Nat) (cs : List Char) : Option (Nat × List Char) :=
  let run := (cs.take most).takeWhile Char.isDigit
  if run.length < least then none
  else some ((Text.readDigits? 10 0 run).getD 0, cs.drop run.length)

def takeSign? (sign : Char) : List Char → Option (List Char)
  | c :: cs => if c = sign then some cs else none
  | [] => none

/-- A time zone at the end of a date; blanks may stand before it. -/
def zone? (cs : List Char) : Option (Option (Bool × Nat × Nat)) :=
  match cs, cs.dropWhile isSpace with
  | [], _ => some none
  | _, ['Z'] => some none
  | _, sign :: rest => do
    if sign != '-' && sign != '+' then none
    let (hours, rest) ← takeDigits? 1 2 rest
    if rest.isEmpty then return some (sign == '-', hours, 0)
    let (minutes, rest) ← takeDigits? 2 2 (← takeSign? ':' rest)
    if rest.isEmpty then some (some (sign == '-', hours, minutes)) else none
  | _, [] => none

def time? (cs : List Char) : Option ((Nat × Nat × Nat) × Option (Bool × Nat × Nat)) := do
  let rest ← match cs with
    | 'T' :: rest | 't' :: rest => some rest
    | c :: _ => if isSpace c then some (cs.dropWhile isSpace) else none
    | [] => none
  let (hour, rest) ← takeDigits? 1 2 rest
  let (minute, rest) ← takeDigits? 2 2 (← takeSign? ':' rest)
  let (second, rest) ← takeDigits? 2 2 (← takeSign? ':' rest)
  let rest := match rest with
    | '.' :: fraction => fraction.dropWhile Char.isDigit
    | _ => rest
  return ((hour, minute, second), ← zone? rest)

def writtenDate? (cs : List Char) : Option WrittenDate := do
  let (year, rest) ← takeDigits? 4 4 cs
  let (month, rest) ← takeDigits? 1 2 (← takeSign? '-' rest)
  let (day, rest) ← takeDigits? 1 2 (← takeSign? '-' rest)
  if rest.isEmpty then return { year, month, day }
  let (time, zone) ← time? rest
  return { year, month, day, time := some time, zone }

/-- Dates without a time are written with all ten characters to count as dates. -/
def isDate (cs : List Char) : Bool :=
  match writtenDate? cs with
  | some d => d.time.isSome || cs.length == 10
  | none => false

/-! ## The tag of a plain scalar -/

/-- The forms pass over a newline that ends a longer text. -/
def beforeFinalBreak (cs : List Char) : List Char :=
  if cs.getLast? = some '\n' ∧ cs.dropLast ≠ [] then cs.dropLast else cs

namespace Tag

def ofPlain (written : String) : Tag :=
  let cs := beforeFinalBreak written.toList
  let s := String.ofList cs
  if isFlag s then bool
  else if isFloat cs then float
  else if isInteger cs then int
  else if s == "<<" then merge
  else if ["", "~", "null", "Null", "NULL"].contains s then null
  else if isDate cs then timestamp
  else if s == "=" then defaultValue
  else text

end Tag

end Yaml

end BytecodeViewer
