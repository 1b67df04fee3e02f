import BytecodeViewer.Host.Act

/-!
# The log

Records carry the context that is bound while they are logged.  A context is
bound for the time of an act, whether the act fails or not.
-/

namespace BytecodeViewer

inductive LogLevel where
  | debug
  | info
  | warning
  | error
  deriving DecidableEq, Repr

def LogLevel.name : LogLevel → String
  | debug => "DEBUG"
  | info => "INFO"
  | warning => "WARNING"
  | error => "ERROR"

def LogLevel.number : LogLevel → Int
  | debug => 10
  | info => 20
  | warning => 30
  | error => 40

abbrev LogContext := List (String × String)

structure LogRecord where
  channel : String
  level : LogLevel
  message : String
  context : LogContext := []
  /-- Whether the record tells where a failure came from. -/
  withTrace : Bool := false
  deriving DecidableEq, Repr

/-- The records so far and the context that is bound. -/
structure Log where
  /-- The level from which on records are kept. -/
  level : Int := LogLevel.debug.number
  bound : LogContext := []
  records : List LogRecord := []
  deriving DecidableEq, Repr

namespace Log

def add (l : Log) (channel : String) (level : LogLevel) (message : String)
    (withTrace : Bool := false) : Log :=
  if l.level ≤ level.number then
    { l with records := l.records ++ [⟨channel, level, message, l.bound, withTrace⟩] }
  else l

/-- Binds keys over those that are bound; a key keeps one value. -/
def bind (l : Log) (extra : LogContext) : Log :=
  { l with bound := l.bound.filter (fun (k, _) => (extra.lookup k).isNone) ++ extra }

def present (values : List (String × Option String)) : LogContext :=
  values.filterMap fun (k, v) => v.map (k, ·)

end Log

end BytecodeViewer
