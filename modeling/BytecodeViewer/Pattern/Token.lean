import BytecodeViewer.Pattern.Fault

/-!
# Tokens of a written pattern

A token is a character, or a backslash with the character after it.  The cursor
holds the next token ready, so a lone backslash at the end is noticed as soon as
the token before it has been taken.
-/

namespace BytecodeViewer

namespace Pattern

inductive Token where
  | char (c : Char)
  | escape (c : Char)
  deriving DecidableEq, Repr

namespace Token

def text : Token → String
  | char c => String.ofList [c]
  | escape c => String.ofList ['\\', c]

def length : Token → Nat
  | char _ => 1
  | escape _ => 2

def isIn (t : Token) (p : Char → Bool) : Bool :=
  match t with
  | char c => p c
  | escape _ => false

end Token

/-- A place in a pattern: the next token, what follows it, and where that begins. -/
structure Cursor where
  next : Option Token
  following : List Char
  index : Nat
  deriving Repr

namespace Cursor

def ofTail (following : List Char) (index : Nat) : Except Fault Cursor :=
  match following with
  | [] => .ok ⟨none, [], index⟩
  | ['\\'] => .error ⟨.escapeAtEnd, some index⟩
  | '\\' :: c :: cs => .ok ⟨some (.escape c), cs, index + 2⟩
  | c :: cs => .ok ⟨some (.char c), cs, index + 1⟩

def start (source : String) : Except Fault Cursor :=
  ofTail source.toList 0

def place (c : Cursor) : Nat :=
  match c.next with
  | some t => c.index - t.length
  | none => c.index

def advance (c : Cursor) : Except Fault Cursor :=
  ofTail c.following c.index

def fault (c : Cursor) (cause : Cause) (back : Nat := 0) : Fault :=
  ⟨cause, some (c.place - back)⟩

def isAt (c : Cursor) (x : Char) : Bool :=
  c.next == some (.char x)

/-- Takes up to `count` tokens that are characters of a class. -/
def takeWhile (p : Char → Bool) : Nat → Cursor → Except Fault (List Char × Cursor)
  | 0, c => .ok ([], c)
  | count + 1, c =>
    match c.next with
    | some (.char x) =>
      if p x then do
        let c' ← c.advance
        let (xs, rest) ← takeWhile p count c'
        return (x :: xs, rest)
      else .ok ([], c)
    | _ => .ok ([], c)

/-- Takes a name up to a closing character.  `fuel` bounds its length. -/
def takeName (closing : Char) (what : String) : Nat → List Char → Cursor →
    Except Fault (String × Cursor)
  | 0, _, c => .error (c.fault (.missing what))
  | fuel + 1, taken, c =>
    match c.next with
    | none =>
      if taken.isEmpty then .error (c.fault (.missing what))
      else .error (c.fault (.unterminatedName (String.ofList [closing])) taken.length)
    | some t => do
      let c' ← c.advance
      if t = .char closing then
        if taken.isEmpty then throw (c'.fault (.missing what) 1)
        return (String.ofList taken, c')
      takeName closing what fuel (taken ++ t.text.toList) c'

def name (c : Cursor) (closing : Char) (what : String) : Except Fault (String × Cursor) :=
  takeName closing what (c.following.length + 2) [] c

end Cursor

end Pattern

end BytecodeViewer
