import BytecodeViewer.Text.Blank
import BytecodeViewer.Text.Case
import BytecodeViewer.Text.Digit
import BytecodeViewer.Text.Word

/-!
# Tests on one character

The parts of a pattern that consume one character: any character, a single
code point, or a set of code points, ranges and kinds of characters.  A test
may ignore letter case, for all scripts or for ASCII letters alone.

Code points are numbers here, since a pattern may name one that is no
character of any text.
-/

namespace BytecodeViewer

namespace Pattern

/-- The kinds of characters that have an escape of their own. -/
inductive CharKind where
  | digit
  | blank
  | word
  deriving DecidableEq, Repr

/-- Whether a character is of a kind, among all characters or among ASCII alone. -/
def CharKind.holds (ascii : Bool) : CharKind → Char → Bool
  | digit, c => if ascii then c.isDigit else Text.isDecimal c
  | blank, c => if ascii then Text.isAsciiBlank c else Text.isBlank c
  | word, c => if ascii then Text.isAsciiWord c else Text.isWord c

/-- How letter case counts in a comparison. -/
inductive CaseRule where
  | exact
  | ignored
  | asciiIgnored
  deriving DecidableEq, Repr

namespace CaseRule

def fold : CaseRule → Char → Char
  | exact, c => c
  | ignored, c => Text.lowerChar c
  | asciiIgnored, c => c.toLower

def forms : CaseRule → Char → List Char
  | exact, c => [c]
  | ignored, c => Text.letterForms c
  | asciiIgnored, c => [c, c.toUpper]

def isCased : CaseRule → Char → Bool
  | exact, _ => false
  | ignored, c => Text.hasCase c
  | asciiIgnored, c => c.isAlpha

end CaseRule

/-- A member of a character set. -/
inductive SetItem where
  | range (first last : Nat)
  | kind (k : CharKind) (ascii negated : Bool)
  deriving DecidableEq, Repr

namespace SetItem

def one (code : Nat) : SetItem := range code code

def foldLimit : Nat := 0x10000

/-- Whether a folded character belongs to a member.  Below `foldLimit` a range
takes in every form of its letters. -/
def holds (rule : CaseRule) (folded : Char) : SetItem → Bool
  | range first last =>
    ((rule.forms folded).any fun c => first ≤ c.toNat && c.toNat ≤ last && c.toNat < foldLimit) ||
      (foldLimit ≤ last && first ≤ folded.toNat && folded.toNat ≤ last) ||
      (foldLimit ≤ last && first < last && rule != .exact &&
        first ≤ (Text.upperChar folded).toNat && (Text.upperChar folded).toNat ≤ last)
  | kind k ascii negated => k.holds ascii folded != negated

def isCased (rule : CaseRule) : SetItem → Bool
  | range first last =>
    foldLimit ≤ last ||
      (List.range (last + 1 - first)).any fun k => rule.isCased (Char.ofNat (first + k))
  | kind .. => false

end SetItem

/-- A test that consumes one character. -/
inductive CharTest where
  | any
  | notNewline
  | literal (code : Nat) (rule : CaseRule) (negated : Bool)
  | set (items : List SetItem) (rule : CaseRule) (negated : Bool)
  deriving DecidableEq, Repr

namespace CharTest

/-- A set compares exactly unless letter case can matter to one of its members. -/
def ofItems (items : List SetItem) (rule : CaseRule) (negated : Bool) : CharTest :=
  set items (if items.any (·.isCased rule) then rule else .exact) negated

def holds : CharTest → Char → Bool
  | any, _ => true
  | notNewline, c => c != '\n'
  | literal code rule negated, c =>
    ((rule.forms (rule.fold c)).any (·.toNat == code)) != negated
  | set items rule negated, c => (items.any (·.holds rule (rule.fold c))) != negated

end CharTest

end Pattern

end BytecodeViewer
