import DesignTokens.Proofs.Resolver.Calls

/-! Resolvers in use. Every request leaves a resolver for the same graph with a cache of
answers, and this alone decides what the next request comes to. -/
namespace DesignTokens.Resolver

/-- A resolver of the graph that caches nothing but answers. -/
structure Serves (graph : Graph) (resolver : Resolver) : Prop where
  graph_eq : resolver.graph = graph
  sound : Machine.Sound graph resolver.cache

theorem serves_new (graph : Graph) (memoize verify : Bool) :
    Serves graph { graph, memoize, verify } where
  graph_eq := rfl
  sound := Machine.sound_nil graph

variable {graph : Graph}
  (agrees : ∀ path, (graph.resolutionOf path).agrees (graph.resolutionOf path) = true)

include agrees

theorem gives_resolve (path : String) :
    (resolve path).Gives (Serves graph) (.ok (graph.resolutionOf path)) := by
  rintro ⟨_, memoize, verify, cache⟩ ⟨rfl, sound⟩
  obtain ⟨cache', gains, ends⟩ := ends_resolve sound memoize verify path fun _ => agrees path
  exact ⟨⟨_, memoize, verify, cache'⟩, ⟨rfl, gains.sound⟩, ends⟩

theorem gives_resolveAll : resolveAll.Gives (Serves graph) (.ok graph.resolutions) := by
  rintro ⟨_, memoize, verify, cache⟩ ⟨rfl, sound⟩
  obtain ⟨cache', gains, ends⟩ := ends_resolveAll agrees memoize verify sound
  exact ⟨⟨_, memoize, verify, cache'⟩, ⟨rfl, gains.sound⟩, ends⟩

theorem gives_resolveToken? (path : String) :
    (resolveToken? graph true path).Gives (Serves graph) (.ok (graph.resolution? path)) := by
  intro resolver serves
  unfold Graph.resolution?
  cases known : graph.has path with
  | true =>
    obtain ⟨after, served, ends⟩ := gives_resolve agrees path resolver serves
    exact ⟨after, served, ends_resolveToken?_of_own known ends⟩
  | false => exact ⟨resolver, serves, ends_resolveToken?_of_absent known true resolver⟩

end DesignTokens.Resolver
