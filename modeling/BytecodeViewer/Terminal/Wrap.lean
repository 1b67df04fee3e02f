import BytecodeViewer.StyledText
import BytecodeViewer.Text.Blank
import BytecodeViewer.Text.Cells
import BytecodeViewer.Text.Parts

/-!
# Wrapping

Text is wrapped to the width of a terminal, which is counted in cells.  Lines end
behind blanks if possible, and a word that is wider than a line is cut.
-/

namespace BytecodeViewer.Terminal

open Text

def tabWidth : Nat := 8

/-- Replaces tabs by spaces up to the next multiple of the tab width. -/
def expandTabs (column : Nat) : List Char → List Char
  | [] => []
  | c :: cs =>
    if c = '\t' then
      let next := (column / tabWidth + 1) * tabWidth
      List.replicate (next - column) ' ' ++ expandTabs next cs
    else c :: expandTabs (column + cellWidth c) cs

def startsBlank : List Char → Bool
  | [] => false
  | c :: _ => isBlank c

def blankRuns : List Char → List (List Char)
  | [] => []
  | c :: cs =>
    match blankRuns cs with
    | [] => [[c]]
    | run :: runs =>
      if isBlank c && !startsBlank run then [c] :: run :: runs else (c :: run) :: runs

/-- Words with the blanks behind them; the first word has the blanks in front of it
too.  Blanks alone are no word. -/
def words (cs : List Char) : List (List Char) :=
  match blankRuns cs with
  | [] => []
  | run :: runs =>
    if run.all isBlank then
      match runs with
      | [] => []
      | next :: rest => (run ++ next) :: rest
    else run :: runs

def chop (width : Nat) : Nat → List Char → List (List Char)
  | _, [] => [[]]
  | column, c :: cs =>
    if column + cellWidth c ≤ width then
      match chop width (column + cellWidth c) cs with
      | [] => [[c]]
      | piece :: pieces => (c :: piece) :: pieces
    else
      match chop width (cellWidth c) cs with
      | [] => [[], [c]]
      | piece :: pieces => [] :: (c :: piece) :: pieces

/-- The lines that are full, and the line that is being filled. -/
structure Filling where
  full : List (List Char) := []
  current : List Char := []
  column : Nat := 0

namespace Filling

def putLine (f : Filling) (piece : List Char) : Filling where
  full := if f.full.isEmpty && f.current.isEmpty then [] else f.full ++ [f.current]
  current := piece
  column := cells piece

/-- Puts a word on the current line if it has room, blanks behind the word aside. -/
def putWord (width : Nat) (f : Filling) (word : List Char) : Filling :=
  let size := cells (word.reverse.dropWhile isBlank).reverse
  if f.column + size ≤ width then
    { f with current := f.current ++ word, column := f.column + cells word }
  else if width < size then (chop width 0 word).foldl putLine f
  else f.putLine word

def lines (f : Filling) : List (List Char) :=
  f.full ++ [f.current]

end Filling

/-- Drops blanks from the end of a line that has more characters than cells. -/
def trimEnd (width : Nat) (line : List Char) : List Char :=
  let blanks := (line.reverse.takeWhile isBlank).length
  line.take (line.length - min blanks (line.length - width))

/-- As much of a line as fits; half of a wide character is shown as a blank. -/
def takeCells : Nat → List Char → List Char
  | _, [] => []
  | room, c :: cs =>
    if cellWidth c ≤ room then c :: takeCells (room - cellWidth c) cs
    else if room = 1 then [' ']
    else []

def wrapLine (width : Nat) (line : List Char) : List (List Char) :=
  let lines := match words line with
    | [] => [line]
    | ws => (ws.foldl (Filling.putWord width) {}).lines
  lines.map fun l => takeCells width (trimEnd width l)

/-- The lines of a text on a terminal; one without any width shows nothing. -/
def wrap (width : Nat) (s : String) : List (List Char) :=
  if width = 0 then []
  else
    (splitAtEach '\n' (withoutControls s.toList)).flatMap fun line =>
      wrapLine width (expandTabs 0 line)

def shown (width : Nat) (s lineEnd : String) : String :=
  match wrap width s with
  | [] => ""
  | lines => String.intercalate "\n" (lines.map String.ofList) ++ lineEnd

end BytecodeViewer.Terminal
