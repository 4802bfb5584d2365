import DesignTokens.Json.Printer
import DesignTokens.Report

/-! Reports as JSON. -/
namespace DesignTokens.Report

def texts (list : List String) : Value := .list (list.map .str)

def resolutionValue (outcome : Resolution) : Value :=
  .object [("path", .str outcome.path), ("status", .str outcome.status.name),
    ("value", outcome.value)]

def cycleValue (warning : CycleWarning) : Value :=
  .object [("chain", texts warning.chain), ("message", .str warning.message)]

def groupValue (group : DuplicateGroup) : Value :=
  .object [("value", .str group.value), ("tokens", texts group.tokens)]

def skippedValue (node : SkippedNode) : Value :=
  .object [("path", .str node.path), ("reason", .str node.reason)]

def shownResults (report : Report) (includeResolved : Bool) : Entries Resolution :=
  report.results.filter fun result => includeResolved || !result.2.isResolved

def toValue (report : Report) (includeResolved : Bool) : Value :=
  .object [
    ("sources", texts report.sources),
    ("results", .object ((report.shownResults includeResolved).map fun (path, outcome) =>
      (path, resolutionValue outcome))),
    ("cycles", .list (report.cycles.map cycleValue)),
    ("duplicates", .list (report.duplicates.map groupValue)),
    ("diagnostics", .list (report.skipped.map skippedValue)),
    ("dangling", .object (report.dangling.map fun (target, sources) => (target, texts sources))),
    ("unknown_types", .object (report.unknownTypes.map fun (type, count) => (type, .int count))),
    ("generated_at", .str report.generatedAt.isoText),
    ("tool_version", .str report.version),
    ("status_counts", .object (report.statusCounts.map fun (name, count) => (name, .int count)))]

def jsonText (report : Report) (room : Nat) (indent : Json.Indent) (includeResolved : Bool) :
    Except Json.Unwritable String :=
  Json.print room indent (report.toValue includeResolved)

end DesignTokens.Report
