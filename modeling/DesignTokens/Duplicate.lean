import DesignTokens.Resolver
import DesignTokens.Value.Key

/-! Duplicate values: tokens of some types that resolve to the same value. A token
that cannot be resolved, or that the graph lacks, counts with its declared value. A
value without a key ends the search. -/
namespace DesignTokens

structure DuplicateGroup where
  value : String
  tokens : List String
deriving DecidableEq

namespace Duplicate

inductive Error where
  | typesNotASet
  | resolver (error : ResolverError)
  | unwritable (fault : Json.Unwritable)

abbrev Finding := Action Resolver Error

def resolveToken? (path : String) : Finding (Option Resolution) := do
  let resolver ← Action.state
  let ran := (Resolver.resolveToken? resolver.graph true path).run resolver
  Action.put ran.state
  Action.absorb .resolver ran

/-- Tokens without a value worth comparing are no candidates. -/
def isCandidate (wanted : List Datum) (token : Token) : Bool :=
  wanted.any (·.isText token.type) && token.value.isTruthy

/-- The value that a token is compared by. -/
def comparedOf (declared : Value) : Option Resolution → Value
  | some outcome => if outcome.isResolved then outcome.value else declared
  | none => declared

def addToGroup (room : Nat) (groups : Entries (List String)) (token : Token) :
    Finding (Entries (List String)) := do
  let compared := comparedOf token.value (← resolveToken? token.path)
  let key ← Action.ofExcept .unwritable (compared.key room)
  return Entries.gather key token.path groups

/-- Larger groups first, and groups of one size in the order of their first tokens. -/
def ranked (groups : Entries (List String)) : List DuplicateGroup :=
  ((groups.filter fun group => 2 ≤ group.2.length).map fun group =>
    (⟨group.1, group.2⟩ : DuplicateGroup)).mergeSort
      fun a b => decide (b.tokens.length ≤ a.tokens.length)

def find (room : Nat) (candidates : List Token) (types : Datum) :
    Finding (List DuplicateGroup) := do
  let some wanted := types.members? | throw .typesNotASet
  let groups ← (candidates.filter (isCandidate wanted)).foldlM (addToGroup room) []
  let duplicates := ranked groups
  Action.report [.duplicatesFound duplicates.length]
  return duplicates

end Duplicate

/-- The duplicates among the tokens of a tree, its references resolved in a tree
that may hold more tokens. -/
def detectDuplicates (room : Nat) (settings : Settings) (tree : Value)
    (allTokens : Option Value) (types : Option Datum) :
    Except Duplicate.Error (List DuplicateGroup) :=
  let resolver : Resolver := {
    graph := Graph.build settings [allTokens.getD tree]
    memoize := settings.memoize.isTruthy }
  ((Duplicate.find room (Tree.tokens settings tree) (types.getD settings.duplicateTypes)).run
    resolver).result

end DesignTokens
