import DesignTokens.Cycle
import DesignTokens.Duplicate
import DesignTokens.Timestamp

/-! Reports: what one run over some token trees found. -/
namespace DesignTokens

def toolVersion : String := "0.1.0"

structure Report where
  sources : List String := []
  results : Entries Resolution := []
  cycles : List CycleWarning := []
  duplicates : List DuplicateGroup := []
  skipped : List SkippedNode := []
  /-- Paths that are referred to but are no tokens, with the tokens that refer to them. -/
  dangling : Entries (List String) := []
  unknownTypes : Entries Int := []
  generatedAt : Timestamp
  version : String := toolVersion

namespace Report

def outcomes (report : Report) : List Resolution := report.results.items

def countOf (report : Report) (status : Status) : Nat :=
  report.outcomes.countP (·.status = status)

def statusCounts (report : Report) : Entries Nat :=
  Status.all.map fun status => (status.name, report.countOf status)

def unresolved (report : Report) : List Resolution := report.outcomes.filter (!·.isResolved)

def isClean (report : Report) : Bool := report.unresolved = [] ∧ report.cycles = []

/-- The outcomes to list: all of them, or the failures only. -/
def listed (report : Report) (onlyUnresolved : Bool) : List Resolution :=
  if onlyUnresolved then report.unresolved else report.outcomes

end Report

end DesignTokens
