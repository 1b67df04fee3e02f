import BytecodeViewer.Text.Blank
import BytecodeViewer.Text.Case
import BytecodeViewer.Text.Parts

/-!
# Markup

Text for a terminal may hold tags in square brackets, which style what is between
them and are not shown.  A backslash before a tag lets it stand as it is; two of
them show one.  Escaping a text lets all tags in it be shown.  Names of emoji
between colons are replaced by the emoji, also in a text that has been escaped.
-/

namespace BytecodeViewer.Terminal

/-- Part of a text with markup: a tag with the backslashes before it, or anything else. -/
inductive MarkupPiece where
  | plain (cs : List Char)
  | tag (slashes : Nat) (content : List Char)
  deriving DecidableEq, Repr

inductive MarkupFault where
  | notOpen (tag : String) (position : Nat)
  | nothingOpen (position : Nat)
  deriving DecidableEq, Repr

def MarkupFault.message : MarkupFault → String
  | notOpen tag position =>
    "closing tag '[" ++ tag ++ "]' at position " ++ toString position ++
      " doesn't match any open tag"
  | nothingOpen position =>
    "closing tag '[/]' at position " ++ toString position ++ " has nothing to close"

def isTagStart (c : Char) : Bool :=
  ('a' ≤ c && c ≤ 'z') || c == '#' || c == '/' || c == '@'

/-- What stands between the brackets of a tag, if what follows a bracket is one. -/
def tagContent? : List Char → Option (List Char)
  | [] => none
  | c :: cs =>
    let body := cs.takeWhile fun c => c != ']' && c != '['
    if isTagStart c && (cs.drop body.length).head? == some ']' then some (c :: body) else none

def slashes (n : Nat) : List Char :=
  List.replicate n '\\'

def markupPieces (pending : Nat) (cs : List Char) : List MarkupPiece :=
  match cs with
  | [] => [.plain (slashes pending)]
  | c :: rest =>
    if c = '\\' then markupPieces (pending + 1) rest
    else if c = '[' then
      match tagContent? rest with
      | some content => .tag pending content :: markupPieces 0 (rest.drop (content.length + 1))
      | none => .plain (slashes pending ++ ['[']) :: markupPieces 0 rest
    else .plain (slashes pending ++ [c]) :: markupPieces 0 rest
termination_by cs.length
decreasing_by all_goals (simp only [List.length_cons, List.length_drop]; omega)

def bracketed (content : List Char) : List Char :=
  '[' :: content ++ [']']

def escapePiece : MarkupPiece → List Char
  | .plain cs => cs
  | .tag n content => slashes (2 * n + 1) ++ bracketed content

/-- A single backslash at the end is doubled, so that it escapes nothing behind it. -/
def escapeEnd (cs : List Char) : List Char :=
  match cs.reverse with
  | '\\' :: '\\' :: _ => cs
  | '\\' :: _ => cs ++ ['\\']
  | _ => cs

def escape (s : String) : String :=
  String.ofList (escapeEnd ((markupPieces 0 s.toList).flatMap escapePiece))

def tagName (content : List Char) : List Char :=
  content.takeWhile (· != '=')

def normalTag (name : List Char) : String :=
  Text.lower (Text.trim (String.ofList name))

def closeTag? (name : String) (opened : List String) : Option (List String) :=
  if name ∈ opened then some (opened.erase name) else none

def applyTag (position : Nat) (content : List Char) (opened : List String) :
    Except MarkupFault (List String) :=
  match tagName content with
  | '/' :: name =>
    if (Text.trim (String.ofList name)).isEmpty then
      match opened with
      | [] => .error (.nothingOpen position)
      | _ :: rest => .ok rest
    else
      match closeTag? (normalTag name) opened with
      | some rest => .ok rest
      | none => .error (.notOpen (String.ofList content) position)
  | name => .ok (normalTag name :: opened)

def shownPlain (cs : List Char) : List Char :=
  match cs.reverse with
  | '[' :: '\\' :: rest => rest.reverse ++ ['[']
  | _ => cs

/-! ## Codes of emoji -/

/-- What is shown for the names of emoji, which are in lower case. -/
abbrev EmojiTable := String → Option String

/-- How an emoji is to be shown, if its code says so. -/
inductive EmojiVariant where
  | usual
  | text
  | emoji
  deriving DecidableEq, Repr

def EmojiVariant.mark : EmojiVariant → String
  | usual => ""
  | text => "\uFE0E"
  | emoji => "\uFE0F"

/-- The name of an emoji, how it is to be shown, and how many characters the code has
behind its first colon. -/
structure EmojiCode where
  name : List Char := []
  variant : EmojiVariant := .usual
  length : Nat
  deriving DecidableEq, Repr

/-- What ends the name of an emoji: a colon, with a variant before it or none. -/
def codeEnd? (cs : List Char) : Option EmojiCode :=
  if ['-', 'e', 'm', 'o', 'j', 'i', ':'].isPrefixOf cs then some { variant := .emoji, length := 7 }
  else if ['-', 't', 'e', 'x', 't', ':'].isPrefixOf cs then some { variant := .text, length := 6 }
  else if [':'].isPrefixOf cs then some { length := 1 }
  else none

/-- The code that opens with a colon, by what follows the colon.  The name ends as early as
it can, and has no blanks. -/
def emojiCode? : List Char → Option EmojiCode
  | [] => none
  | c :: cs =>
    match codeEnd? (c :: cs) with
    | some code => some code
    | none =>
      if Text.isBlank c then none
      else (emojiCode? cs).map fun code =>
        { code with name := c :: code.name, length := code.length + 1 }

def EmojiCode.shown? (emoji : EmojiTable) (code : EmojiCode) : Option String :=
  (emoji (Text.lower (String.ofList code.name))).map (· ++ code.variant.mark)

/-- A text with the emoji of its codes, once some characters have been skipped.  A code
whose name is in no table stays as it is. -/
def withEmoji (emoji : EmojiTable) : Nat → List Char → List Char
  | _, [] => []
  | skip + 1, _ :: cs => withEmoji emoji skip cs
  | 0, c :: cs =>
    match if c = ':' then emojiCode? cs else none with
    | none => c :: withEmoji emoji 0 cs
    | some code =>
      match code.shown? emoji with
      | some shown => shown.toList ++ withEmoji emoji code.length cs
      | none => c :: cs.take code.length ++ withEmoji emoji code.length cs

/-! ## Showing -/

/-- What is shown of some pieces, after a text of which the emoji are still to be found:
no code reaches over a tag. -/
def showPieces (emoji : EmojiTable) (position : Nat) (opened : List String) (before : List Char) :
    List MarkupPiece → Except MarkupFault (List Char)
  | [] => .ok (withEmoji emoji 0 before)
  | .plain cs :: ps =>
    showPieces emoji (position + cs.length) opened (before ++ shownPlain cs) ps
  | .tag n content :: ps => do
    let next := position + n + content.length + 2
    let shown := withEmoji emoji 0 before ++ slashes (n / 2)
    if n % 2 = 1 then
      let literal := withEmoji emoji 0 (bracketed content)
      return shown ++ literal ++ (← showPieces emoji next opened [] ps)
    else
      let opened ← applyTag (position + n) content opened
      return shown ++ (← showPieces emoji next opened [] ps)

def plainOfMarkup (emoji : EmojiTable) (s : String) : Except MarkupFault String := do
  return String.ofList (← showPieces emoji 0 [] [] (markupPieces 0 s.toList))

end BytecodeViewer.Terminal
