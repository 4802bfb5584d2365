import DesignTokens.Proofs.Resolver.Answers

/-! Calls in any order on one resolver. Whatever was asked before, and whether the cache
is kept, cleared or verified, each reply is the one that no history could change. -/
namespace DesignTokens.Resolver

inductive Call where
  | resolve (path : String)
  | resolveAll
  | resolveToken (path : String)
  /-- With a graph that the resolver was not made for. -/
  | resolveTokenOf (foreign : Graph) (path : String)
  | clearCache

inductive Reply where
  | resolution (outcome : Resolution)
  | resolutions (outcomes : Entries Resolution)
  | token (outcome : Option Resolution)
  | cleared

def Call.perform : Call → Resolving Reply
  | .resolve path => do return .resolution (← Resolver.resolve path)
  | .resolveAll => do return .resolutions (← Resolver.resolveAll)
  | .resolveToken path => do
    let resolver ← Action.state
    return .token (← resolveToken? resolver.graph true path)
  | .resolveTokenOf foreign path => do return .token (← resolveToken? foreign false path)
  | .clearCache => do
    Resolver.clearCache
    return .cleared

/-- The replies to some calls on one resolver, a failed one holding up none after it. -/
def performAll (resolver : Resolver) : List Call → List (Except ResolverError Reply)
  | [] => []
  | call :: rest =>
    let ran := call.perform.run resolver
    ran.result :: performAll ran.state rest

/-- The reply that is due when every path has the answer given for it. -/
def Call.due (graph : Graph) (answer : String → Resolution) : Call → Except ResolverError Reply
  | .resolve path => .ok (.resolution (answer path))
  | .resolveAll => .ok (.resolutions (graph.paths.map fun path => (path, answer path)))
  | .resolveToken path => .ok (.token (if graph.has path then some (answer path) else none))
  | .resolveTokenOf foreign path =>
    if foreign.has path then .error .foreignGraph else .ok (.token none)
  | .clearCache => .ok .cleared

/-- The paths that a call asks its resolver for. -/
def Call.requests (graph : Graph) : Call → List String
  | .resolve path => [path]
  | .resolveAll => graph.paths
  | .resolveToken path => [path]
  | .resolveTokenOf .. => []
  | .clearCache => []

/-- What a call keeps of the cache it finds. -/
def Call.kept (cache : Entries Resolution) : Call → Entries Resolution
  | .clearCache => []
  | _ => cache

theorem Call.due_ne_disagreement (graph : Graph) (answer : String → Resolution) (call : Call)
    (path : String) (first second : Value) :
    call.due graph answer ≠ .error (.disagreement path first second) := by
  unfold due
  split
  · simp
  · simp
  · simp
  · split <;> simp
  · simp

theorem ends_resolveToken?_of_absent {graph : Graph} {path : String}
    (unknown : graph.has path = false) (isOwn : Bool) (resolver : Resolver) :
    (resolveToken? graph isOwn path).Ends resolver (.ok none) resolver := by
  unfold resolveToken?
  rw [unknown]
  exact Action.ends_pure none resolver

theorem ends_resolveToken?_of_foreign {foreign : Graph} {path : String}
    (known : foreign.has path = true) (resolver : Resolver) :
    (resolveToken? foreign false path).Ends resolver (.error .foreignGraph) resolver := by
  unfold resolveToken?
  rw [known]
  exact (Action.ends_throw _ resolver).bind_error _

theorem ends_resolveToken?_of_own {graph : Graph} {path : String} (known : graph.has path = true)
    {before after : Resolver} {outcome : Resolution}
    (ends : (resolve path).Ends before (.ok outcome) after) :
    (resolveToken? graph true path).Ends before (.ok (some outcome)) after := by
  unfold resolveToken?
  rw [known]
  exact ends.map some

section

variable {graph : Graph} {cache : Entries Resolution}
  (agrees : ∀ path, (graph.resolutionOf path).agrees (graph.resolutionOf path) = true)
  (memoize verify : Bool)

include agrees

/-- Resolving one path after another, the cache of each passed on to the next. -/
private theorem ends_mapM_resolve (sound : Machine.Sound graph cache) (paths : List String) :
    ∃ cache', Machine.Gains graph memoize
        (fun path => ∃ request ∈ paths, graph.Reaches request path)
        cache cache' ∧
      Action.Ends (paths.mapM fun path => do return (path, ← resolve path))
        ⟨graph, memoize, verify, cache⟩
        (.ok (paths.map fun path => (path, graph.resolutionOf path)))
        ⟨graph, memoize, verify, cache'⟩ := by
  induction paths generalizing cache with
  | nil =>
    refine ⟨cache, Machine.gains_nothing sound ?_, Action.ends_pure _ _⟩
    rintro path - ⟨request, none, -⟩
    exact absurd none List.not_mem_nil
  | cons path rest ih =>
    obtain ⟨cache', gains, first⟩ := ends_resolve sound memoize verify path fun _ => agrees path
    obtain ⟨cache'', more, others⟩ := ih gains.sound
    refine ⟨cache'', (gains.trans more).congr (by simp), ?_⟩
    rw [List.mapM_cons]
    exact (first.map _).bind (others.map _)

theorem ends_resolveAll (sound : Machine.Sound graph cache) :
    ∃ cache', Machine.Gains graph memoize
        (fun path => ∃ request ∈ graph.paths, graph.Reaches request path) cache cache' ∧
      resolveAll.Ends ⟨graph, memoize, verify, cache⟩
        (.ok (graph.paths.map fun path => (path, graph.resolutionOf path)))
        ⟨graph, memoize, verify, cache'⟩ := by
  obtain ⟨cache', gains, ends⟩ := ends_mapM_resolve agrees memoize verify sound graph.paths
  refine ⟨cache', gains, ?_⟩
  unfold resolveAll
  apply (Action.ends_state _).bind
  apply ends.bind
  exact (Action.ends_report _ _).map _

/-- A call leaves the cache sound, with what its requests lead to, and its reply is the one
that is due. -/
theorem ends_perform (sound : Machine.Sound graph cache) (call : Call) :
    ∃ cache', Machine.Gains graph memoize
        (fun path => ∃ request ∈ call.requests graph, graph.Reaches request path)
        (call.kept cache) cache' ∧
      call.perform.Ends ⟨graph, memoize, verify, cache⟩ (call.due graph graph.resolutionOf)
        ⟨graph, memoize, verify, cache'⟩ := by
  cases call with
  | resolve path =>
    obtain ⟨cache', gains, ends⟩ := ends_resolve sound memoize verify path fun _ => agrees path
    exact ⟨cache', gains.congr (by simp [Call.requests]), ends.map _⟩
  | resolveAll =>
    obtain ⟨cache', gains, ends⟩ := ends_resolveAll agrees memoize verify sound
    exact ⟨cache', gains, ends.map _⟩
  | resolveToken path =>
    unfold Call.perform Call.due
    dsimp only
    cases known : graph.has path with
    | true =>
      obtain ⟨cache', gains, ends⟩ := ends_resolve sound memoize verify path fun _ => agrees path
      refine ⟨cache', gains.congr (by simp [Call.requests]), ?_⟩
      apply (Action.ends_state _).bind
      exact (ends_resolveToken?_of_own known ends).map Reply.token
    | false =>
      refine ⟨cache, Machine.gains_nothing sound ?_, ?_⟩
      · -- A path that is no token leads to itself only, and fails.
        rintro goal resolves ⟨request, asked, reached⟩
        rw [List.mem_singleton.mp asked] at reached
        have absent := Graph.node?_of_has_eq_false known
        rw [Graph.reaches_of_absent absent reached, answer_of_absent absent] at resolves
        contradiction
      · apply (Action.ends_state _).bind
        exact (ends_resolveToken?_of_absent known true _).map Reply.token
  | resolveTokenOf foreign path =>
    refine ⟨cache, Machine.gains_nothing sound ?_, ?_⟩
    · rintro goal - ⟨request, asked, -⟩
      exact absurd asked List.not_mem_nil
    unfold Call.perform Call.due
    dsimp only
    cases known : foreign.has path with
    | true => exact (ends_resolveToken?_of_foreign known _).bind_error _
    | false => exact (ends_resolveToken?_of_absent known false _).map Reply.token
  | clearCache =>
    refine ⟨[], Machine.gains_nothing (Machine.sound_nil graph) ?_, ?_⟩
    · rintro goal - ⟨request, asked, -⟩
      exact absurd asked List.not_mem_nil
    have cleared : clearCache.Ends ⟨graph, memoize, verify, cache⟩ (.ok ())
        ⟨graph, memoize, verify, []⟩ := (Action.ends_state _).bind (Action.ends_put _ _)
    exact cleared.map _

/-- Every reply of a resolver with a sound cache is the one that is due. -/
theorem performAll_eq_due (sound : Machine.Sound graph cache) (calls : List Call) :
    performAll ⟨graph, memoize, verify, cache⟩ calls =
      calls.map (Call.due graph graph.resolutionOf) := by
  induction calls generalizing cache with
  | nil => rfl
  | cons call rest ih =>
    obtain ⟨cache', gains, ends⟩ := ends_perform agrees memoize verify sound call
    rw [performAll, ends.result, ends.state, ih gains.sound, List.map_cons]

end

/-- The answers of resolvers without a cache, each asked once, are the answers of one
resolver to any calls in any order, and no verification fails on the way. -/
theorem performAll_transparent (settings : Settings) (trees : List Value)
    (h : ∀ tree ∈ trees, tree.isWellKeyed = true) :
    let graph := Graph.build settings trees
    ∃ answer : String → Resolution,
      (∀ path, ((resolve path).run { graph, memoize := false }).result = .ok (answer path)) ∧
        ∀ (memoize verify : Bool) (calls : List Call),
          performAll { graph, memoize, verify } calls = calls.map (Call.due graph answer) ∧
          ∀ path first second, .error (.disagreement path first second) ∉
            performAll { graph, memoize, verify } calls := by
  intro graph
  have agrees (path : String) :
      (graph.resolutionOf path).agrees (graph.resolutionOf path) = true :=
    Resolution.agrees_refl _ (isWellKeyed_resolution h [] path none)
  refine ⟨graph.resolutionOf, ?_, ?_⟩
  · intro path
    obtain ⟨cache, -, ends⟩ :=
      ends_resolve (Machine.sound_nil graph) false false path fun _ => agrees path
    exact ends.result
  · intro memoize verify calls
    have replies := performAll_eq_due agrees memoize verify (Machine.sound_nil graph) calls
    refine ⟨replies, ?_⟩
    intro path first second failed
    rw [replies] at failed
    obtain ⟨call, -, due⟩ := List.mem_map.mp failed
    exact Call.due_ne_disagreement _ _ call path first second due

theorem transparent_for_frameWithin :
    (∀ tree ∈ [frameWithin], tree.isWellKeyed = true) ∧
      ∃ answer : String → Resolution,
        (∀ path, ((resolve path).run
          { graph := Graph.build {} [frameWithin], memoize := false }).result =
            .ok (answer path)) ∧
        performAll { graph := Graph.build {} [frameWithin], verify := true }
            [.resolve "width", .resolve "frame", .clearCache, .resolve "frame"] =
          [.ok (.resolution (answer "width")), .ok (.resolution (answer "frame")),
            .ok .cleared, .ok (.resolution (answer "frame"))] := by
  have h : ∀ tree ∈ [frameWithin], tree.isWellKeyed = true := by decide
  obtain ⟨answer, fresh, replies⟩ := performAll_transparent {} [frameWithin] h
  exact ⟨h, answer, fresh, (replies true true _).1⟩

end DesignTokens.Resolver
