/-!
# Context of failures

Values that tell more about a failure.  For display a context is normalised:
tuples become lists, and things that are only known by their text become texts.
-/

namespace BytecodeViewer

inductive ContextValue where
  | null
  | bool (b : Bool)
  /-- A number with a given count of decimal places. -/
  | number (digits : Int) (places : Nat)
  | text (s : String)
  | list (items : List ContextValue)
  | tuple (items : List ContextValue)
  | map (fields : List (String × ContextValue))
  /-- Anything else, such as a path, by the text it is displayed as. -/
  | thing (displayed : String)
  deriving Inhabited

abbrev Context := List (String × ContextValue)

mutual

def ContextValue.normalize : ContextValue → ContextValue
  | .null => .null
  | .bool b => .bool b
  | .number digits places => .number digits places
  | .text s => .text s
  | .list items => .list (normalizeItems items)
  | .tuple items => .list (normalizeItems items)
  | .map fields => .map (normalizeFields fields)
  | .thing displayed => .text displayed

def normalizeItems : List ContextValue → List ContextValue
  | [] => []
  | v :: vs => v.normalize :: normalizeItems vs

def normalizeFields : List (String × ContextValue) → List (String × ContextValue)
  | [] => []
  | (k, v) :: fs => (k, v.normalize) :: normalizeFields fs

end

def Context.normalize (c : Context) : Context :=
  normalizeFields c

def ContextValue.texts (ss : List String) : ContextValue :=
  .list (ss.map .text)

end BytecodeViewer
