import DesignTokens.Status

/-! What a run reports while it works. -/
namespace DesignTokens

/-- The arrow between the members of a reference cycle. -/
def cycleText (chain : List String) : String := String.intercalate " → " chain

inductive Level where
  | debug
  | info
  | warning
deriving DecidableEq

namespace Level

def name : Level → String
  | debug => "DEBUG"
  | info => "INFO"
  | warning => "WARNING"

def rank : Level → Nat
  | debug => 0
  | info => 1
  | warning => 2

end Level

inductive Event where
  | settingsLoaded (source : String)
  | fileLoaded (source : String)
  | nodeSkipped (path reason : String)
  | tokenRedeclared (path : String)
  | graphBuilt (tokens referring skipped : Nat)
  | targetMissing (path : String)
  | cycleEntered (path : String)
  | allResolved (tokens unresolved : Nat)
  | cycleFound (chain : List String)
  | duplicatesFound (groups : Nat)
  | sessionStarted (sources : Nat)
  | graphReady (tokens referring : Nat)
  | skippedListed (path reason : String)
  | tokenUnresolved (path : String) (status : Status)
  | tokensReady
  | cycleWarned (message : String)
  | duplicatesReady (groups : Nat)
deriving DecidableEq

namespace Event

def level : Event → Level
  | settingsLoaded _ | sessionStarted _ | graphReady .. | tokensReady | duplicatesReady _ => .info
  | tokenUnresolved .. | cycleWarned _ => .warning
  | _ => .debug

def message : Event → String
  | settingsLoaded source => s!"Loaded resolver config from {source}"
  | fileLoaded source => s!"Loaded token file {source}"
  | nodeSkipped path reason => s!"Skipping malformed node '{path}': {reason}"
  | tokenRedeclared path => s!"Token '{path}' redeclared, later source wins"
  | graphBuilt tokens referring skipped =>
    s!"Built token graph: {tokens} tokens, {referring} with references, {skipped} skipped nodes"
  | targetMissing path => s!"Reference to missing token '{path}'"
  | cycleEntered path => s!"Cycle detected at '{path}'"
  | allResolved tokens unresolved => s!"Resolved {tokens} tokens ({unresolved} unresolved)"
  | cycleFound chain => s!"Found cycle: {cycleText chain}"
  | duplicatesFound groups => s!"Found {groups} duplicate value groups"
  | sessionStarted sources => s!"Starting resolution session over {sources} source(s)"
  | graphReady tokens referring =>
    s!"Step 1: Built graph with {tokens} tokens ({referring} aliased)"
  | skippedListed path reason => s!"Skipped '{path}': {reason}"
  | tokenUnresolved path status => s!"Token '{path}' is {status.name}"
  | tokensReady => "Step 2: Resolved all tokens"
  | cycleWarned message => message
  | duplicatesReady groups => s!"Step 4: Found {groups} duplicate value group(s)"

end Event

/-- What was reported, the earliest event first. -/
abbrev Journal := List Event

def Journal.from (level : Level) (journal : Journal) : Journal :=
  journal.filter fun event => level.rank ≤ event.level.rank

end DesignTokens
