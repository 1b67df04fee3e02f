/-!
# Words of a command line

A command line is a list of words: options, the values of options, and arguments.
Long options begin with two dashes and may have their value behind an equals sign;
short ones begin with one dash, and several may share it.  Two dashes alone end the
options.
-/

namespace BytecodeViewer

/-- An option under all of its names. -/
structure OptionForm where
  names : List String
  takesValue : Bool := true
  deriving DecidableEq, Repr

/-- An option that was given, by its first name. -/
structure GivenOption where
  name : String
  value : Option String := none
  deriving DecidableEq, Repr

structure ReadWords where
  options : List GivenOption := []
  arguments : List String := []
  deriving DecidableEq, Repr

namespace ReadWords

def consAll (os : List GivenOption) (r : ReadWords) : ReadWords :=
  { r with options := os ++ r.options }

def value? (r : ReadWords) (name : String) : Option String :=
  (r.options.reverse.find? (·.name == name)).bind (·.value)

def has (r : ReadWords) (name : String) : Bool :=
  r.options.any (·.name == name)

def switch? (r : ReadWords) (on off : String) : Option Bool :=
  (r.options.reverse.find? fun o => o.name == on || o.name == off).map (·.name == on)

end ReadWords

namespace OptionForm

def key (o : OptionForm) : String :=
  o.names.headD ""

def find? (forms : List OptionForm) (name : String) : Option OptionForm :=
  forms.find? (name ∈ ·.names)

/-- What one word gives: options that are complete, and one that waits for its value. -/
structure WordOptions where
  complete : List GivenOption := []
  waiting : Option String := none

/-- Short options that share a dash; the first that takes a value takes the rest. -/
def readShort (forms : List OptionForm) : List Char → Option WordOptions
  | [] => some {}
  | c :: cs => do
    let form ← find? forms (String.ofList ['-', c])
    if form.takesValue then
      if cs.isEmpty then return { waiting := some form.key }
      else return { complete := [⟨form.key, some (String.ofList cs)⟩] }
    else
      let rest ← readShort forms cs
      return { rest with complete := ⟨form.key, none⟩ :: rest.complete }

/-- A long option with or without a value behind an equals sign. -/
def readLong (forms : List OptionForm) (word : List Char) : Option WordOptions := do
  let name := word.takeWhile (· != '=')
  let form ← find? forms (String.ofList name)
  match form.takesValue, word.drop name.length with
  | true, [] => return { waiting := some form.key }
  | true, _ :: value => return { complete := [⟨form.key, some (String.ofList value)⟩] }
  | false, [] => return { complete := [⟨form.key, none⟩] }
  | false, _ => none

def readOption (forms : List OptionForm) : List Char → Option WordOptions
  | '-' :: '-' :: cs => readLong forms ('-' :: '-' :: cs)
  | '-' :: cs => readShort forms cs
  | _ => none

def isOption : List Char → Bool
  | '-' :: _ :: _ => true
  | _ => false

/-- Reads words; with `mixed`, options may stand behind arguments too. -/
def read (forms : List OptionForm) (mixed : Bool) : List String → Option ReadWords
  | [] => some {}
  | word :: words =>
    if word = "--" then some { arguments := words }
    else if isOption word.toList then do
      let found ← readOption forms word.toList
      match found.waiting with
      | none => return (← read forms mixed words).consAll found.complete
      | some name =>
        match words with
        | value :: rest =>
          return (← read forms mixed rest).consAll (found.complete ++ [⟨name, some value⟩])
        | [] => none
    else if mixed then do
      let r ← read forms mixed words
      return { r with arguments := word :: r.arguments }
    else some { arguments := word :: words }

end OptionForm

end BytecodeViewer
