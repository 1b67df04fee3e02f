import BytecodeViewer.Pattern.Options
import BytecodeViewer.Pattern.Token
import BytecodeViewer.Pattern.Tree
import BytecodeViewer.Text.Identifier

/-!
# Reading patterns

A pattern is read from left to right into a tree.  Each item carries the least
and the greatest number of characters it can match, since a condition on what
stands before a position needs a body of one fixed width.

Faults of the written text come first; a body of no fixed width is reported only
when the whole text has been read.
-/

namespace BytecodeViewer

namespace Pattern

/-- How many characters a part can match. -/
structure Width where
  least : Nat
  greatest : Nat
  deriving DecidableEq, Repr

namespace Width

def limit : Nat := 0x10000000000000000

def zero : Width := ⟨0, 0⟩
def one : Width := ⟨1, 1⟩

def ofBounds (least greatest : Nat) : Width :=
  ⟨min least limit, min greatest limit⟩

def add (a b : Width) : Width :=
  ofBounds (a.least + b.least) (a.greatest + b.greatest)

def either (a b : Width) : Width :=
  ⟨min a.least b.least, max a.greatest b.greatest⟩

def optional (a : Width) : Width :=
  ⟨0, a.greatest⟩

def rounds (a : Width) (least : Nat) (most : Option Nat) : Width :=
  match most with
  | some n => ofBounds (a.least * least) (a.greatest * n)
  | none => ofBounds (a.least * least) (if a.greatest = 0 then 0 else limit)

end Width

/-- What kind of item stands before a repetition mark. -/
inductive ItemKind where
  | plain
  | anchor
  | repetition
  deriving DecidableEq, Repr

structure Item where
  node : Node
  width : Width
  kind : ItemKind := .plain

namespace Item

def anchor (a : Anchor) : Item := ⟨.anchor a, .zero, .anchor⟩
def char (test : CharTest) : Item := ⟨.char test, .one, .plain⟩

def sequence (items : List Item) : Item :=
  ⟨.sequence (items.map (·.node)), (items.map (·.width)).foldl .add .zero, .plain⟩

def choice : List Item → Item
  | [] => sequence []
  | first :: others =>
    ⟨.choice ((first :: others).map (·.node)),
      others.foldl (fun w i => w.either i.width) first.width, .plain⟩

end Item

/-- What has been gathered while reading. -/
structure Reading where
  cursor : Cursor
  options : Options
  /-- The widths of the groups in order, none while a group is open. -/
  groups : List (Option Width) := []
  names : List (String × Nat) := []
  /-- The number of groups, the whole match included, when the outermost condition
  on earlier text began. -/
  behindGroups : Option Nat := none
  /-- Numbers of groups that conditions name, with their places. -/
  mentioned : List (Nat × Nat) := []
  /-- A fault to report when the text has been read. -/
  late : Option Cause := none

abbrev Reader := StateT Reading (Except Fault)

namespace Reading

def groupCount (r : Reading) : Nat :=
  r.groups.length + 1

def groupWidth? (r : Reading) (index : Nat) : Option Width :=
  if index = 0 then none else (r.groups[index - 1]?).join

end Reading

def fail {α : Type} (cause : Cause) (back : Nat := 0) : Reader α := do
  throw ((← get).cursor.fault cause back)

def failFrom {α : Type} (cause : Cause) (place : Nat) : Reader α :=
  throw ⟨cause, some place⟩

def peek : Reader (Option Token) := do
  return (← get).cursor.next

def place : Reader Nat := do
  return (← get).cursor.place

def take : Reader (Option Token) := do
  let r ← get
  let cursor ← r.cursor.advance
  set { r with cursor }
  return r.cursor.next

def takeIf (c : Char) : Reader Bool := do
  if (← get).cursor.isAt c then
    let _ ← take
    return true
  else return false

def takeChars (p : Char → Bool) (count : Nat) : Reader (List Char) := do
  let r ← get
  let (cs, cursor) ← Cursor.takeWhile p count r.cursor
  set { r with cursor }
  return cs

def takeName (closing : Char) (what : String) : Reader String := do
  let r ← get
  let (name, cursor) ← r.cursor.name closing what
  set { r with cursor }
  return name

def isOctal (c : Char) : Bool := '0' ≤ c && c ≤ '7'
def isHex (c : Char) : Bool := c.isDigit || ('a' ≤ c && c ≤ 'f') || ('A' ≤ c && c ≤ 'F')

def digitsValue (base : Nat) (cs : List Char) : Nat :=
  cs.foldl (fun n c => n * base + ((Text.digitIn? base c).getD 0)) 0

def controlEscape? : Char → Option Nat
  | 'a' => some 7
  | 'b' => some 8
  | 'f' => some 12
  | 'n' => some 10
  | 'r' => some 13
  | 't' => some 9
  | 'v' => some 11
  | '\\' => some 92
  | _ => none

/-- The escapes that stand for a kind of characters or for all others. -/
def kindEscape? (ascii : Bool) : Char → Option SetItem
  | 'd' => some (.kind .digit ascii false)
  | 'D' => some (.kind .digit ascii true)
  | 's' => some (.kind .blank ascii false)
  | 'S' => some (.kind .blank ascii true)
  | 'w' => some (.kind .word ascii false)
  | 'W' => some (.kind .word ascii true)
  | _ => none

def anchorEscape? (ascii : Bool) : Char → Option Anchor
  | 'A' => some .textStart
  | 'Z' => some .textEnd
  | 'b' => some (.wordEdge ascii)
  | 'B' => some (.notWordEdge ascii)
  | _ => none

def hexEscape (letter : Char) (count : Nat) : Reader Nat := do
  let digits ← takeChars isHex count
  let written := String.ofList ('\\' :: letter :: digits)
  if digits.length ≠ count then
    fail (.incompleteEscape written) written.length
  let code := digitsValue 16 digits
  if 0x10FFFF < code then
    fail (.badEscape written) written.length
  return code

/-- No character is known by name. -/
def namedEscape {α : Type} : Reader α := do
  unless ← takeIf '{' do
    fail (.missing "\x7b")
  let name ← takeName '}' "character name"
  fail (.unknownCharacterName name) (name.length + 4)

/-- A code point of up to three octal digits of which the first is given. -/
def octalEscape (first : Char) : Reader Nat := do
  let digits := first :: (← takeChars isOctal 2)
  let code := digitsValue 8 digits
  if 0xFF < code then
    fail (.octalTooLarge (String.ofList ('\\' :: digits))) (digits.length + 1)
  return code

/-- The code point of an escape that is written alike inside and outside of sets. -/
def codeEscape? (c : Char) : Reader (Option Nat) := do
  match c with
  | 'x' => return some (← hexEscape c 2)
  | 'u' => return some (← hexEscape c 4)
  | 'U' => return some (← hexEscape c 8)
  | 'N' => namedEscape
  | _ => return none

/-- An escaped character that has no other meaning stands for itself. -/
def plainEscape (c : Char) : Reader Nat := do
  if c.isAlpha || c.isDigit then
    fail (.badEscape (String.ofList ['\\', c])) 2
  return c.toNat

def setEscape (o : Options) (c : Char) : Reader SetItem := do
  if let some code := controlEscape? c then return .one code
  if let some item := kindEscape? o.ascii c then return item
  if let some code ← codeEscape? c then return .one code
  if isOctal c then return .one (← octalEscape c)
  return .one (← plainEscape c)

def isClosed (index : Nat) : Reader Bool := do
  return ((← get).groupWidth? index).isSome

/-- Inside a condition on earlier text only groups that were closed before it may be
named. -/
def checkBehindGroup (index : Nat) : Reader Unit := do
  if let some count := (← get).behindGroups then
    unless ← isClosed index do
      fail .openGroup
    if count ≤ index then
      fail .groupInLookBehind

def literal (o : Options) (code : Nat) : Item :=
  .char (.literal code o.caseRule false)

def backreference (o : Options) (index : Nat) (width : Width) : Item :=
  ⟨.backreference index o.caseRule, width, .plain⟩

/-- A group named by its number, or an octal escape of three digits. -/
def numberEscape (o : Options) (first : Char) : Reader Item := do
  let second ← takeChars (·.isDigit) 1
  let third ←
    if isOctal first && second.any isOctal then takeChars isOctal 1 else pure []
  let digits := first :: (second ++ third)
  let written := String.ofList ('\\' :: digits)
  if digits.length = 3 then
    let code := digitsValue 8 digits
    if 0xFF < code then
      fail (.octalTooLarge written) written.length
    return literal o code
  let index := digitsValue 10 digits
  let r ← get
  if index < r.groupCount then
    match r.groupWidth? index with
    | none => fail .openGroup written.length
    | some width =>
      checkBehindGroup index
      return backreference o index width
  fail (.noSuchGroup index) (written.length - 1)

def itemEscape (o : Options) (c : Char) : Reader Item := do
  if let some a := anchorEscape? o.ascii c then return .anchor a
  if let some item := kindEscape? o.ascii c then return .char (.set [item] .exact false)
  if let some code := controlEscape? c then return literal o code
  if let some code ← codeEscape? c then return literal o code
  if c = '0' then return literal o (← octalEscape c)
  if c.isDigit then return ← numberEscape o c
  return literal o (← plainEscape c)

def setMember (o : Options) : Token → Reader SetItem
  | .escape c => setEscape o c
  | .char c => pure (.one c.toNat)

def singleCode? : SetItem → Option Nat
  | .range first last => if first = last then some first else none
  | .kind .. => none

/-- The members of a set up to its closing bracket.  `start` is the place of the
opening one and `fuel` bounds the number of members. -/
def setMembers (o : Options) (start : Nat) : Nat → List SetItem → Reader (List SetItem)
  | 0, items => return items
  | fuel + 1, items => do
    let some this ← take | failFrom .unterminatedSet start
    if this = .char ']' && !items.isEmpty then
      return items
    let first ← setMember o this
    unless ← takeIf '-' do
      return ← setMembers o start fuel (items ++ [first])
    let some that ← take | failFrom .unterminatedSet start
    if that = .char ']' then
      return items ++ [first, .one 45]
    let last ← setMember o that
    let bad : Cause := .badRange this.text that.text
    match singleCode? first, singleCode? last with
    | some a, some b =>
      if b < a then fail bad (this.length + 1 + that.length)
      setMembers o start fuel (items ++ [.range a b])
    | _, _ => fail bad (this.length + 1 + that.length)

def readSet (o : Options) : Reader Item := do
  let start := (← place) - 1
  let negated ← takeIf '^'
  let r ← get
  let items ← setMembers o start (r.cursor.following.length + 3) []
  match items.eraseDups with
  | [.range first last] =>
    if first = last then return .char (.literal first o.caseRule negated)
    return .char (.ofItems [.range first last] o.caseRule negated)
  | items => return .char (.ofItems items o.caseRule negated)

def countLimit : Nat := 4294967295

def readCount (digits : List Char) : Reader Nat := do
  match Text.parseInteger 10 (String.ofList digits) with
  | .ok n =>
    if countLimit ≤ n.toNat then throw ⟨.repeatTooLarge, none⟩
    return n.toNat
  | .error why => throw ⟨.badCount why, none⟩

/-- The bounds of a repetition whose mark has been taken.  A brace that begins no
bounds stands for itself. -/
def readBounds? (mark : Char) : Reader (Option (Nat × Option Nat)) := do
  match mark with
  | '?' => return some (0, some 1)
  | '*' => return some (0, none)
  | '+' => return some (1, none)
  | _ =>
    let r ← get
    let start := r.cursor.place
    if r.cursor.isAt '}' then return none
    let many := r.cursor.following.length + 1
    let low ← takeChars (·.isDigit) many
    let high ← if ← takeIf ',' then takeChars (·.isDigit) many else pure low
    unless ← takeIf '}' do
      set r
      return none
    let least ← if low.isEmpty then pure 0 else readCount low
    if high.isEmpty then return some (least, none)
    let most ← readCount high
    if most < least then
      failFrom .repeatBounds start
    return some (least, some most)

/-- Notes a fault to report at the end, unless there is one already. -/
def noteLate (cause : Cause) : Reader Unit :=
  modify fun r => { r with late := r.late.or (some cause) }

def readGreed : Reader Greed := do
  if ← takeIf '?' then return .lazy
  else if ← takeIf '+' then return .possessive
  else return .greedy

/-- Puts the last item under a repetition mark.  `start` is the place after the
mark. -/
def repeatLast (o : Options) (items : List Item) (start : Nat) (bounds : Nat × Option Nat) :
    Reader (List Item) := do
  let some item := items.getLast? | failFrom .nothingToRepeat (start - 1)
  match item.kind with
  | .anchor => failFrom .nothingToRepeat (start - 1)
  | .repetition => failFrom .multipleRepeat (start - 1)
  | .plain =>
    let greed ← readGreed
    if o.template then
      noteLate <| .templateRepeat <| match greed with
        | .greedy => "MAX_REPEAT"
        | .lazy => "MIN_REPEAT"
        | .possessive => "POSSESSIVE_REPEAT"
    let (least, most) := bounds
    return items.dropLast ++
      [⟨.repetition item.node least most greed, item.width.rounds least most, .repetition⟩]

def checkName (name : String) : Reader Unit := do
  unless Text.isIdentifier name do
    fail (.badGroupName name) (name.length + 1)

def openGroup (name : Option String) : Reader Nat := do
  let r ← get
  let index := r.groupCount
  match name with
  | none => set { r with groups := r.groups ++ [none] }
  | some n =>
    if let some earlier := r.names.lookup n then
      fail (.groupNameTaken n index earlier) (n.length + 1)
    set { r with groups := r.groups ++ [none], names := (n, index) :: r.names }
  return index

def closeGroup (index : Nat) (width : Width) : Reader Unit :=
  modify fun r => { r with groups := r.groups.set (index - 1) (some width) }

def readCondition : Reader Nat := do
  let name ← takeName ')' "group name"
  let back := name.length + 1
  let r ← get
  if Text.isIdentifier name then
    match r.names.lookup name with
    | some index => return index
    | none => fail (.unknownGroupName name) back
  match Text.parseInteger 10 name with
  | .error _ => fail (.badGroupName name) back
  | .ok n =>
    if n < 0 then fail (.badGroupName name) back
    if n = 0 then fail .badGroupNumber back
    let index := n.toNat
    if 1073741823 ≤ index then fail (.noSuchGroup index) back
    if (r.mentioned.lookup index).isNone then
      set { r with mentioned := r.mentioned ++ [(index, r.cursor.place - back)] }
    return index

def isLetter (t : Token) : Bool :=
  t.isIn fun c => c != '_' && Text.isIdentifierStart c

/-- The switches to turn on, from the first letter on, with the token that ends
them. -/
def switchesOn : Nat → Char → List Switch → Reader (List Switch × Token)
  | 0, _, on => return (on, .char ')')
  | fuel + 1, c, on => do
    let some s := Switch.ofChar? c | return (on, .char c)
    if s = .locale then fail .localeOption
    let on := on ++ [s]
    if s.isAlphabet && (on.any fun x => x.isAlphabet && x != s) then fail .conflictingOptions
    let some t ← take | fail (.missing "-, : or )")
    if t.isIn fun c => c == ')' || c == '-' || c == ':' then
      return (on, t)
    match t with
    | .char next =>
      if (Switch.ofChar? next).isSome then switchesOn fuel next on
      else fail (if isLetter t then .unknownOption else .missing "-, : or )") t.length
    | .escape _ => fail (.missing "-, : or )") t.length

def switchesOff : Nat → Token → List Switch → Reader (List Switch)
  | 0, _, off => return off
  | fuel + 1, t, off => do
    let missing := if off.isEmpty then "flag" else ":"
    match t with
    | .escape _ => fail (.missing missing) t.length
    | .char c =>
      match Switch.ofChar? c with
      | none => fail (if isLetter t then .unknownOption else .missing missing) t.length
      | some s =>
        if s.isAlphabet then fail .fixedOption
        let off := off ++ [s]
        let some next ← take | fail (.missing ":")
        if next = .char ':' then return off
        switchesOff fuel next off

/-- Options written in a pattern: those of the whole pattern, or those of one group. -/
inductive WrittenOptions where
  | whole (on : List Switch)
  | group (on off : List Switch)

def readOptions (first : Char) : Reader WrittenOptions := do
  let fuel := (← get).cursor.following.length + 3
  let (on, ending) ←
    if first = '-' then pure ([], Token.char '-') else switchesOn fuel first []
  if ending = .char ')' then
    return .whole on
  if on.contains .template then fail .globalOptionOn 1
  let off ←
    if ending = .char '-' then do
      let some t ← take | fail (.missing "flag")
      switchesOff fuel t []
    else pure []
  if off.contains .template then fail .globalOptionOff 1
  if on.any (off.contains ·) then fail .optionOnAndOff 1
  return .group on off

def skipLine : Nat → Reader Unit
  | 0 => return
  | fuel + 1 => do
    match ← take with
    | none => return
    | some t => if t = .char '\n' then return else skipLine fuel

def skipComment (start : Nat) : Nat → Reader Unit
  | 0 => return
  | fuel + 1 => do
    if (← peek).isNone then failFrom .unterminatedComment start
    if (← take) = some (.char ')') then return else skipComment start fuel

/-- The opening of a group, as far as it decides what follows. -/
inductive Opening where
  | capture (name : Option String)
  | plain (on off : List Switch)
  | atomic
  | look (behind negated : Bool)
  | condition
  | reference (name : String)
  | comment
  | options (on : List Switch)

def unknownExtension {α : Type} (before : String) (t : Token) : Reader α :=
  fail (.unknownExtension (before ++ t.text)) (before.length + t.length + 1)

def readOpening : Reader Opening := do
  unless ← takeIf '?' do
    return .capture none
  let some t ← take | fail .unexpectedEnd
  match t with
  | .char 'P' =>
    if ← takeIf '<' then
      let name ← takeName '>' "group name"
      checkName name
      return .capture (some name)
    if ← takeIf '=' then
      let name ← takeName ')' "group name"
      checkName name
      return .reference name
    let some u ← take | fail .unexpectedEnd
    unknownExtension "P" u
  | .char ':' => return .plain [] []
  | .char '#' => return .comment
  | .char '=' => return .look false false
  | .char '!' => return .look false true
  | .char '<' =>
    let some u ← take | fail .unexpectedEnd
    if u = .char '=' then return .look true false
    if u = .char '!' then return .look true true
    unknownExtension "<" u
  | .char '(' => return .condition
  | .char '>' => return .atomic
  | .char c =>
    if c = '-' || (Switch.ofChar? c).isSome then
      match ← readOptions c with
      | .whole on => return .options on
      | .group on off => return .plain on off
    unknownExtension "" t
  | .escape _ => unknownExtension "" t

def readReference (o : Options) (name : String) : Reader Item := do
  let r ← get
  let some index := r.names.lookup name | fail (.unknownGroupName name) (name.length + 1)
  let some width := r.groupWidth? index | fail .openGroup (name.length + 1)
  checkBehindGroup index
  return backreference o index width

def closeParenthesis (start : Nat) : Reader Unit := do
  unless ← takeIf ')' do
    failFrom .unterminatedGroup start

/-- A condition on the surrounding text, with the fault of its width noted before
those of its body. -/
def lookItem (behind negated : Bool) (before : Option Cause) (body : Item) : Reader Item := do
  let w := body.width
  if behind then
    let cause? : Option Cause :=
      if countLimit < w.least then some .lookBehindFar
      else if w.least ≠ w.greatest then some .lookBehindWidth
      else none
    if let some cause := cause? then
      modify fun r => { r with late := before.or (some cause) }
  return ⟨.look (if behind then .behind w.least else .ahead) negated body.node, .zero, .plain⟩

/-- The options that hold where the reader stands: those of the enclosing group, or
those of the whole pattern. -/
def optionsIn (scope : Option Options) : Reader Options := do
  return scope.getD (← get).options

def isPatternBlank (c : Char) : Bool :=
  c == ' ' || c == '\t' || c == '\n' || c == '\r' || c == '\x0b' || c == '\x0c'

mutual

/-- Alternatives up to the end of the group or of the pattern.  `fuel` bounds the
tokens still to be taken, as in the readers below. -/
def readChoice : Nat → Option Options → List Item → Reader Item
  | 0, _, done => return .choice done
  | fuel + 1, scope, done => do
    let items ← readSequence fuel scope (scope.isNone && done.isEmpty) []
    let done := done ++ [.sequence items]
    if ← takeIf '|' then readChoice fuel scope done else return .choice done

/-- Items up to the end of an alternative.  Options for the whole pattern may stand
before the first of its items. -/
def readSequence : Nat → Option Options → Bool → List Item → Reader (List Item)
  | 0, _, _, items => return items
  | fuel + 1, scope, first, items => do
    let some t ← peek | return items
    if t.isIn fun c => c == '|' || c == ')' then return items
    let _ ← take
    let o ← optionsIn scope
    match t with
    | .escape c => readSequence fuel scope first (items ++ [← itemEscape o c])
    | .char c =>
      if o.verbose && isPatternBlank c then
        readSequence fuel scope first items
      else if o.verbose && c == '#' then do
        skipLine fuel
        readSequence fuel scope first items
      else match c with
        | '[' => readSequence fuel scope first (items ++ [← readSet o])
        | '.' =>
          readSequence fuel scope first (items ++ [.char (if o.dotAll then .any else .notNewline)])
        | '^' =>
          readSequence fuel scope first
            (items ++ [.anchor (if o.multiline then .lineStart else .textStart)])
        | '$' =>
          readSequence fuel scope first
            (items ++ [.anchor (if o.multiline then .lineEnd else .lastLineEnd)])
        | '(' => do
          let start := (← place) - 1
          let some item ← readGroup fuel scope (first && items.isEmpty) start
            | readSequence fuel scope first items
          readSequence fuel scope first (items ++ [item])
        | _ =>
          if c == '*' || c == '+' || c == '?' || c == '{' then do
            let start ← place
            match ← readBounds? c with
            | none => readSequence fuel scope first (items ++ [literal o c.toNat])
            | some bounds =>
              readSequence fuel scope first (← repeatLast o items start bounds)
          else readSequence fuel scope first (items ++ [literal o c.toNat])

/-- A group whose opening parenthesis, at `start`, has been taken.  Comments and
options are no items. -/
def readGroup : Nat → Option Options → Bool → Nat → Reader (Option Item)
  | 0, _, _, _ => return none
  | fuel + 1, scope, mayOpen, start => do
    let o ← optionsIn scope
    match ← readOpening with
    | .comment =>
      skipComment start fuel
      return none
    | .options on =>
      modify fun r => { r with options := r.options.switchOn on }
      unless mayOpen do
        failFrom .lateOptions start
      return none
    | .reference name => return some (← readReference o name)
    | .capture name =>
      let index ← openGroup name
      let body ← readChoice fuel (some o) []
      closeParenthesis start
      closeGroup index body.width
      return some ⟨.group index body.node, body.width, .plain⟩
    | .plain on off =>
      let body ← readChoice fuel (some (o.within on off)) []
      closeParenthesis start
      return some { body with kind := .plain }
    | .atomic =>
      let body ← readChoice fuel (some o) []
      closeParenthesis start
      return some ⟨.atomic body.node, body.width, .plain⟩
    | .look behind negated =>
      let before := (← get).late
      let outer := (← get).behindGroups
      if behind && outer.isNone then
        modify fun r => { r with behindGroups := some r.groupCount }
      let body ← readChoice fuel (some o) []
      if behind && outer.isNone then
        modify fun r => { r with behindGroups := none }
      closeParenthesis start
      return some (← lookItem behind negated before body)
    | .condition =>
      let index ← readCondition
      checkBehindGroup index
      let yes := Item.sequence (← readSequence fuel (some o) false [])
      if ← takeIf '|' then
        let no := Item.sequence (← readSequence fuel (some o) false [])
        if (← get).cursor.isAt '|' then fail .tooManyBranches
        closeParenthesis start
        return some ⟨.ifGroup index yes.node no.node, yes.width.either no.width, .plain⟩
      closeParenthesis start
      return some ⟨.ifGroup index yes.node .empty, yes.width.optional, .plain⟩

end

def readWhole (length : Nat) : Reader Node := do
  let item ← readChoice (4 * length + 4) none []
  let r ← get
  if r.options.ascii && r.options.unicode then
    throw ⟨.clashingAlphabets, none⟩
  if r.cursor.next.isSome then fail .unbalancedParenthesis
  if let some (index, where_) := r.mentioned.find? fun (index, _) => r.groupCount ≤ index then
    failFrom (.noSuchGroup index) where_
  if let some cause := r.late then
    throw ⟨cause, none⟩
  return item.node

def read (source : String) (options : Options) : Except Fault Pattern := do
  let cursor ← Cursor.start source
  let (root, r) ← (readWhole source.length).run { cursor, options }
  return { source, groups := r.groups.length, root }

end Pattern

end BytecodeViewer
