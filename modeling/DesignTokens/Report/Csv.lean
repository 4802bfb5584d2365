import DesignTokens.Csv
import DesignTokens.Report
import DesignTokens.Value.Key

/-! Reports as rows of fields: the results, and a section for each kind of finding
that there is. -/
namespace DesignTokens.Report

/-- A section follows an empty row. Without entries there is none. -/
def csvSection (title : String) (header : List String) (entries : List (List String)) :
    List (List String) :=
  if entries = [] then [] else [] :: [title] :: header :: entries

def joinedBySemicolons (paths : List String) : String := String.intercalate "; " paths

def outcomeFields (room : Nat) (outcome : Resolution) : Except Json.Unwritable (List String) :=
  (outcome.value.key room).map fun key => [outcome.path, outcome.status.name, key]

def resultRows (report : Report) (room : Nat) (onlyUnresolved : Bool) :
    Except Json.Unwritable (List (List String)) :=
  ((report.listed onlyUnresolved).mapM (outcomeFields room)).map fun entries =>
    ["# Resolution Results"] :: ["Path", "Status", "Value"] :: entries

def findingRows (report : Report) : List (List String) :=
  csvSection "# Reference Cycles" ["Chain"]
    (report.cycles.map fun warning => [String.intercalate " > " warning.chain]) ++
  csvSection "# Missing References" ["Target", "Referenced By"]
    (report.dangling.map fun (target, sources) => [target, joinedBySemicolons sources]) ++
  csvSection "# Duplicate Values" ["Value", "Count", "Tokens"]
    (report.duplicates.map fun group =>
      [group.value, toString group.tokens.length, joinedBySemicolons group.tokens]) ++
  csvSection "# Skipped Nodes" ["Path", "Reason"]
    (report.skipped.map fun node => [node.path, node.reason])

def csvRows (report : Report) (room : Nat) (includeFindings onlyUnresolved : Bool) :
    Except Json.Unwritable (List (List String)) :=
  (report.resultRows room onlyUnresolved).map
    (· ++ if includeFindings then report.findingRows else [])

def csvText (report : Report) (room : Nat) (delimiter : Char)
    (includeFindings onlyUnresolved : Bool) : Except Json.Unwritable String :=
  (report.csvRows room includeFindings onlyUnresolved).map (Csv.print delimiter)

end DesignTokens.Report
