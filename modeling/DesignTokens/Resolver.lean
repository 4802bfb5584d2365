import DesignTokens.Action
import DesignTokens.Datum.Literal
import DesignTokens.Resolution.Machine

/-! Resolvers: a graph with a cache of the outcomes found so far. A resolver that
verifies resolves every path a second time without the cache. -/
namespace DesignTokens

structure Resolver where
  graph : Graph
  memoize : Bool := true
  verify : Bool := false
  cache : Entries Resolution := []

inductive ResolverError where
  | disagreement (path : String) (first second : Value)
  | foreignGraph

namespace ResolverError

def message : ResolverError → String
  | disagreement path first second =>
    String.ofList ("Resolution of '".toList ++ path.toList ++ "' is not deterministic: ".toList ++
      first.literal ++ " != ".toList ++ second.literal)
  | foreignGraph => "resolver was built for a different graph"

end ResolverError

namespace Resolver

abbrev Resolving := Action Resolver ResolverError

/-- The finished resolution of a path from the given cache. -/
def settled (graph : Graph) (memoize : Bool) (cache : Entries Resolution) (path : String) :
    Machine :=
  (Machine.start cache path).run graph memoize

/-- The outcome without any cache. -/
def fresh (graph : Graph) (path : String) : Resolution :=
  (settled graph false [] path).outcome path

def resolve (path : String) : Resolving Resolution := do
  let resolver ← Action.state
  let first := settled resolver.graph resolver.memoize resolver.cache path
  Action.put { resolver with cache := first.cache }
  Action.report first.journal
  let outcome := first.outcome path
  if resolver.verify then
    let second := settled resolver.graph false [] path
    Action.report second.journal
    let check := second.outcome path
    unless check.agrees outcome do
      throw (.disagreement path outcome.value check.value)
  return outcome

/-- Every token of the graph, in its order. -/
def resolveAll : Resolving (Entries Resolution) := do
  let resolver ← Action.state
  let results ← resolver.graph.paths.mapM fun path => do return (path, ← resolve path)
  let unresolved := (results.filter fun result => !result.2.isResolved).length
  Action.report [.allResolved results.length unresolved]
  return results

/-- The resolution of a token, if the graph has one at the path. A graph is a
resolver's own when the resolver was made for it; an equal one is not. -/
def resolveToken? (graph : Graph) (isOwn : Bool) (path : String) :
    Resolving (Option Resolution) := do
  if !graph.has path then return none
  if !isOwn then throw .foreignGraph
  return some (← resolve path)

def clearCache : Resolving Unit := do
  Action.put { ← Action.state with cache := [] }

/-- Plants an outcome in the cache. -/
def remember (key : String) (outcome : Resolution) : Resolving Unit := do
  let resolver ← Action.state
  Action.put { resolver with cache := resolver.cache.put key outcome }

end Resolver

end DesignTokens
