import BytecodeViewer.Pattern.CharTest

/-!
# Options of a pattern

Options are given beside a pattern, at its start, or for one group.  Those of a
group switch some options on and others off inside it.
-/

namespace BytecodeViewer

namespace Pattern

structure Options where
  ignoreCase : Bool := false
  multiline : Bool := false
  dotAll : Bool := false
  verbose : Bool := false
  ascii : Bool := false
  unicode : Bool := false
  template : Bool := false
  deriving DecidableEq, Repr

/-- An option that a letter stands for inside a pattern. -/
inductive Switch where
  | ignoreCase
  | multiline
  | dotAll
  | verbose
  | ascii
  | unicode
  | template
  | locale
  deriving DecidableEq, Repr

namespace Switch

def ofChar? : Char → Option Switch
  | 'i' => some ignoreCase
  | 'm' => some multiline
  | 's' => some dotAll
  | 'x' => some verbose
  | 'a' => some ascii
  | 'u' => some unicode
  | 't' => some template
  | 'L' => some locale
  | _ => none

def isAlphabet : Switch → Bool
  | ascii | unicode | locale => true
  | _ => false

end Switch

namespace Options

def set (o : Options) (value : Bool) : Switch → Options
  | .ignoreCase => { o with ignoreCase := value }
  | .multiline => { o with multiline := value }
  | .dotAll => { o with dotAll := value }
  | .verbose => { o with verbose := value }
  | .ascii => { o with ascii := value }
  | .unicode => { o with unicode := value }
  | .template => { o with template := value }
  | .locale => o

def switchOn (o : Options) (switches : List Switch) : Options :=
  switches.foldl (·.set true ·) o

def within (o : Options) (on off : List Switch) : Options :=
  let base := if on.any (·.isAlphabet) then { o with ascii := false, unicode := false } else o
  off.foldl (·.set false ·) (base.switchOn on)

def caseRule (o : Options) : CaseRule :=
  if !o.ignoreCase then .exact else if o.ascii then .asciiIgnored else .ignored

end Options

end Pattern

end BytecodeViewer
