import DesignTokens.Text.Markup

/-! Output for a terminal: lines and tables of marked-up text. -/
namespace DesignTokens

structure Table where
  title : String
  header : List String
  /-- Cells in markup. A cell may have several lines. -/
  rows : List (List (List Char))

inductive Block where
  | line (markup : List Char)
  /-- A line without markup. -/
  | text (text : List Char)
  | table (table : Table)

namespace Screen

def splitLines : List Char → List (List Char)
  | [] => [[]]
  | c :: rest =>
    if c = '\n' then [] :: splitLines rest
    else
      match splitLines rest with
      | [] => [[c]]
      | first :: others => (c :: first) :: others

abbrev Cell := List (List Char)

/-- Nothing if the markup is broken. -/
def cell? (markup : List Char) : Option Cell := (Text.Markup.shown? markup).map splitLines

def height (row : List Cell) : Nat := ((row.map List.length).max?).getD 0

def width (cell : Cell) : Nat := ((cell.map List.length).max?).getD 0

/-- The widest cell of each column. -/
def widths : List (List Cell) → List Nat
  | [] => []
  | row :: rest =>
    let below := widths rest
    let here := row.map width
    (List.range (max here.length below.length)).map fun column =>
      max (here.getD column 0) (below.getD column 0)

def padded (width : Nat) (s : List Char) : List Char := s ++ List.replicate (width - s.length) ' '

def rowLine (widths : List Nat) (row : List Cell) (line : Nat) : List Char :=
  List.intercalate [' ', ' '] ((row.zip widths).map fun (cell, width) =>
    padded width (cell.getD line []))

def rowLines (widths : List Nat) (row : List Cell) : List (List Char) :=
  (List.range (height row)).map (rowLine widths row)

def tableLines? (table : Table) : Option (List (List Char)) := do
  let header := table.header.map fun name => [name.toList]
  let rows := header :: (← table.rows.mapM fun row => row.mapM cell?)
  return table.title.toList :: rows.flatMap (rowLines (widths rows))

def escape : Char := '\x1b'

def isBracket (c : Char) : Bool := "[]()\x7b\x7d".toList.contains c

def bold (c : Char) : List Char := escape :: "[1m".toList ++ c :: escape :: "[0m".toList

/-- On a colored screen the brackets of a line are set bold. -/
def withBoldBrackets (s : List Char) : List Char :=
  s.flatMap fun c => if isBracket c then bold c else [c]

def isParameter (c : Char) : Bool := ('0' ≤ c ∧ c ≤ '9') ∨ c = ';' ∨ c = '?'

def isLetter (c : Char) : Bool := ('a' ≤ c ∧ c ≤ 'z') ∨ ('A' ≤ c ∧ c ≤ 'Z')

/-- What follows a sequence that sets the screen, if one begins here. -/
def afterSequence? : List Char → Option (List Char)
  | c :: '[' :: rest =>
    match rest.dropWhile isParameter with
    | letter :: after => if c = escape ∧ isLetter letter then some after else none
    | [] => none
  | _ => none

def withoutSequencesLoop : (fuel : Nat) → List Char → List Char
  | 0, s => s
  | _, [] => []
  | fuel + 1, c :: rest =>
    match afterSequence? (c :: rest) with
    | some after => withoutSequencesLoop fuel after
    | none => c :: withoutSequencesLoop fuel rest

/-- A text as it is written where there is no screen to set. -/
def withoutSequences (s : String) : String :=
  String.ofList (withoutSequencesLoop s.length s.toList)

def blockLines? (colored : Bool) : Block → Option (List (List Char))
  | .line markup => do
    let line ← Text.Markup.shown? markup
    return [if colored then withBoldBrackets line else line]
  | .text text => some [text.filter Text.Markup.isShown]
  | .table table => tableLines? table

/-- Every line ends with a line break. Nothing if some markup is broken. -/
def text? (colored : Bool) (blocks : List Block) : Option String := do
  let lines ← blocks.mapM (blockLines? colored)
  return String.ofList (lines.flatten.flatMap (· ++ ['\n']))

end Screen

end DesignTokens
