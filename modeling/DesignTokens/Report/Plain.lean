import DesignTokens.Report
import DesignTokens.Value.Key

/-! Reports as plain text. -/
namespace DesignTokens.Report

def times (count : Nat) (c : Char) : String := String.ofList (List.replicate count c)

def doubleRule : String := times 60 '='

def rule : String := times 40 '-'

def padRight (width : Nat) (s : String) : String := s ++ times (width - s.length) ' '

def joinedByCommas (parts : List String) : String := String.intercalate ", " parts

/-- A section ends with an empty line. -/
def plainSection (title : String) (lines : List String) : List String :=
  [title, rule] ++ lines ++ [""]

/-- A section for which there may be nothing to say. -/
def findingSection (title : String) (lines : List String) : List String :=
  if lines = [] then [] else plainSection title lines

def outcomeLine (room width : Nat) (outcome : Resolution) : Except Json.Unwritable String :=
  (outcome.value.key room).map fun key =>
    s!"  {padRight width outcome.path}  {padRight 8 outcome.status.name}  {key}"

def outcomeLines (room : Nat) (outcomes : List Resolution) :
    Except Json.Unwritable (List String) :=
  let width := ((outcomes.map (·.path.length)).max?).getD 0
  if outcomes = [] then .ok ["  No tokens to show"] else outcomes.mapM (outcomeLine room width)

def groupLines (group : DuplicateGroup) : List String :=
  let head := s!"  {group.value} ({group.tokens.length} tokens)"
  head :: group.tokens.map fun path => s!"    - {path}"

/-- The root of a tree has no path of its own. -/
def shownPath (path : String) : String := if path = "" then "<root>" else path

def headLines (report : Report) : List String :=
  [doubleRule, "  TOKEN RESOLUTION REPORT"] ++
    (if report.sources = [] then [] else [s!"  Sources: {joinedByCommas report.sources}"]) ++
    [doubleRule, ""]

def summaryLines (report : Report) : List String := [
  s!"  Tokens:    {report.results.length}",
  s!"  Resolved:  {report.countOf .resolved}",
  s!"  Missing:   {report.countOf .missing}",
  s!"  Cyclic:    {report.countOf .cyclic}"]

def plainLines (report : Report) (room : Nat) (onlyUnresolved : Bool) :
    Except Json.Unwritable (List String) := do
  let outcomes ← outcomeLines room (report.listed onlyUnresolved)
  return report.headLines ++
  plainSection "SUMMARY" report.summaryLines ++
  plainSection "TOKENS" outcomes ++
  findingSection "REFERENCE CYCLES" (report.cycles.map fun warning => "  " ++ warning.message) ++
  findingSection "MISSING REFERENCES" (report.dangling.map fun (target, sources) =>
    s!"  {target} <- {joinedByCommas sources}") ++
  findingSection "DUPLICATE VALUES" (report.duplicates.flatMap groupLines) ++
  findingSection "SKIPPED NODES" (report.skipped.map fun node =>
    s!"  {shownPath node.path}: {node.reason}") ++
  [doubleRule, s!"  Generated: {report.generatedAt.minuteText}", doubleRule]

def plainText (report : Report) (room : Nat) (onlyUnresolved : Bool) :
    Except Json.Unwritable String :=
  (report.plainLines room onlyUnresolved).map (String.intercalate "\n")

end DesignTokens.Report
