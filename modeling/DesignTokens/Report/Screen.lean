import DesignTokens.Report.Plain
import DesignTokens.Screen

/-! Reports for a terminal. -/
namespace DesignTokens

namespace Status

def color : Status → String
  | resolved => "green"
  | missing => "yellow"
  | cyclic => "red"

/-- Text in a color. -/
def painted (color text : String) : List Char := s!"[{color}]{text}[/]".toList

def markup (status : Status) : List Char := painted status.color status.name

end Status

namespace DuplicateGroup

def row (group : DuplicateGroup) : List (List Char) := [
  Text.Markup.escape group.value.toList,
  (toString group.tokens.length).toList,
  Text.Markup.escape (String.intercalate "\n" group.tokens).toList]

def table (groups : List DuplicateGroup) : Table :=
  ⟨"Duplicate Values", ["Value", "#", "Tokens"], groups.map row⟩

end DuplicateGroup

namespace Report

def escaped (s : String) : List Char := Text.Markup.escape s.toList

def outcomeRow (room : Nat) (outcome : Resolution) :
    Except Json.Unwritable (List (List Char)) :=
  (outcome.value.key room).map fun key =>
    [escaped outcome.path, outcome.status.markup, escaped key]

def summaryMarkup (report : Report) : List Char :=
  let count (status : Status) :=
    Status.painted status.color s!"{report.countOf status} {status.name}"
  Status.painted "bold cyan" (toString report.results.length) ++ " tokens  ".toList ++
    count .resolved ++ "  ".toList ++ count .missing ++ "  ".toList ++ count .cyclic

/-- A heading with an item for each finding, if there are any. -/
def findingList (color heading : String) (items : List (List Char)) : List Block :=
  if items = [] then []
  else .line ('\n' :: Status.painted ("bold " ++ color) heading) ::
    items.map fun item => .line ("  - ".toList ++ item)

def findingTable (table : Table) : List Block := if table.rows = [] then [] else [.table table]

def blocks (report : Report) (room : Nat) (onlyUnresolved : Bool) :
    Except Json.Unwritable (List Block) := do
  let rows ← (report.listed onlyUnresolved).mapM (outcomeRow room)
  return [.line "Token Resolution".toList, .line report.summaryMarkup] ++
  findingTable ⟨"Tokens", ["Path", "Status", "Value"], rows⟩ ++
  findingList "red" "Reference Cycles:" (report.cycles.map fun warning =>
    escaped warning.message) ++
  findingList "yellow" "Missing References:" (report.dangling.map fun (target, sources) =>
    escaped target ++ " <- ".toList ++ escaped (joinedByCommas sources)) ++
  findingTable (DuplicateGroup.table report.duplicates) ++
  findingList "yellow" "Skipped Nodes:" (report.skipped.map fun node =>
    escaped (shownPath node.path) ++ ": ".toList ++ escaped node.reason)

/-- Nothing if names in the report make up broken markup. -/
def screenText? (report : Report) (room : Nat) (onlyUnresolved : Bool) :
    Except Json.Unwritable (Option String) :=
  (report.blocks room onlyUnresolved).map (Screen.text? true)

end Report

end DesignTokens
