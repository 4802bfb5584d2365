import DesignTokens.Proofs.Resolver.Calls
import Mathlib.Data.List.Nodup

/-! What the cache of a resolver holds after calls in any order: the resolved answers to
all that the requests since it was last cleared lead to, whatever became of the requests
themselves. -/
namespace DesignTokens.Resolver

def afterAll (resolver : Resolver) (calls : List Call) : Resolver :=
  calls.foldl (fun resolver call => (call.perform.run resolver).state) resolver

/-- The paths asked for since the cache was last cleared, with one more call. -/
def Call.requestsSince (graph : Graph) (requests : List String) : Call → List String
  | .clearCache => []
  | call => requests ++ call.requests graph

def requested (graph : Graph) (calls : List Call) : List String :=
  calls.foldl (Call.requestsSince graph) []

/-- The cache holds the resolved answers to what the requests lead to and nothing else. -/
structure Holds (graph : Graph) (memoize : Bool) (requests : List String)
    (cache : Entries Resolution) : Prop where
  sound : Machine.Sound graph cache
  mem_keys : ∀ path, path ∈ cache.keys ↔
    memoize = true ∧ (graph.answer path).1 = .resolved ∧
      ∃ request ∈ requests, graph.Reaches request path

section

variable {graph : Graph} {memoize : Bool} {requests : List String} {cache : Entries Resolution}

theorem holds_nil (graph : Graph) (memoize : Bool) : Holds graph memoize [] [] where
  sound := Machine.sound_nil graph
  mem_keys _ := by simp [Entries.keys]

/-- One call on a cache. -/
theorem Holds.after (holds : Holds graph memoize requests cache) (call : Call)
    {cache' : Entries Resolution}
    (gains : Machine.Gains graph memoize
      (fun path => ∃ request ∈ call.requests graph, graph.Reaches request path)
      (call.kept cache) cache') :
    Holds graph memoize (call.requestsSince graph requests) cache' where
  sound := gains.sound
  mem_keys path := by
    rw [gains.mem_keys]
    cases call with
    | clearCache => simp [Call.requestsSince, Call.requests, Call.kept, Entries.keys]
    | _ =>
      simp only [Call.requestsSince, Call.kept, holds.mem_keys, List.mem_append]
      grind

theorem Holds.lookup_iff (holds : Holds graph memoize requests cache) {path : String}
    {hit : Resolution} :
    cache.lookup path = some hit ↔ path ∈ cache.keys ∧ hit = graph.resolutionOf path := by
  constructor
  · intro found
    exact ⟨Entries.mem_keys_of_lookup found, (holds.sound.answers path hit found).1⟩
  · rintro ⟨known, rfl⟩
    obtain ⟨hit, found⟩ := Entries.exists_lookup_of_mem_keys known
    rw [found, (holds.sound.answers path hit found).1]

/-- Once every token has been asked for, the cache has one entry for each resolved one. -/
theorem Holds.length_eq (holds : Holds graph true requests cache)
    (all : graph.paths ⊆ requests) :
    cache.length =
      (graph.paths.filter fun path => (graph.resolutionOf path).isResolved).length := by
  have same : cache.keys.Perm
      (graph.paths.filter fun path => (graph.resolutionOf path).isResolved) := by
    have distinct : graph.paths.Nodup := graph.distinct
    rw [List.perm_ext_iff_of_nodup holds.sound.distinct (distinct.filter _)]
    intro path
    rw [holds.mem_keys, List.mem_filter, Resolution.isResolved, decide_eq_true_iff]
    constructor
    · rintro ⟨-, resolves, -⟩
      exact ⟨mem_paths_of_resolved resolves, resolves⟩
    · rintro ⟨known, resolves⟩
      exact ⟨rfl, resolves, path, all known, .refl⟩
  rw [← same.length_eq, Entries.keys, List.length_map]

end

section

variable {graph : Graph}
  (agrees : ∀ path, (graph.resolutionOf path).agrees (graph.resolutionOf path) = true)
  (memoize verify : Bool) (calls : List Call)

include agrees

/-- Any calls change nothing of a resolver but its cache: by induction with the requests made
before them. -/
theorem afterAll_of_holds {requests : List String} {cache : Entries Resolution}
    (holds : Holds graph memoize requests cache) :
    ∃ cache', Holds graph memoize (calls.foldl (Call.requestsSince graph) requests) cache' ∧
      afterAll ⟨graph, memoize, verify, cache⟩ calls = ⟨graph, memoize, verify, cache'⟩ := by
  induction calls generalizing requests cache with
  | nil => exact ⟨cache, holds, rfl⟩
  | cons call rest ih =>
    obtain ⟨cache', gains, ends⟩ := ends_perform agrees memoize verify holds.sound call
    obtain ⟨cache'', later, rests⟩ := ih (holds.after call gains)
    refine ⟨cache'', later, ?_⟩
    unfold afterAll at rests ⊢
    rw [List.foldl_cons, ends.state, rests]

theorem holds_afterAll {requests : List String} {cache : Entries Resolution}
    (holds : Holds graph memoize requests cache) :
    Holds graph memoize (calls.foldl (Call.requestsSince graph) requests)
      (afterAll ⟨graph, memoize, verify, cache⟩ calls).cache := by
  obtain ⟨cache', later, rests⟩ := afterAll_of_holds agrees memoize verify calls holds
  rw [rests]
  exact later

/-- What was asked before does not show in an answer. -/
theorem result_resolve_afterAll (path : String) :
    ((resolve path).run (afterAll { graph, memoize, verify } calls)).result =
      .ok (graph.resolutionOf path) := by
  obtain ⟨cache, holds, rests⟩ :=
    afterAll_of_holds agrees memoize verify calls (holds_nil graph memoize)
  obtain ⟨cache', -, ends⟩ := ends_resolve holds.sound memoize verify path fun _ => agrees path
  rw [rests, ends.result]

end

/-- With the answers of resolvers without a cache, each asked once: after any calls exactly
the resolved paths that some request since the last clearing leads to are cached, each with
the answer to it; asking for everything caches every resolved token; and a resolver that
does not memoize caches nothing. -/
theorem cache_afterAll (settings : Settings) (trees : List Value)
    (h : ∀ tree ∈ trees, tree.isWellKeyed = true) :
    let graph := Graph.build settings trees
    ∃ answer : String → Resolution,
      (∀ path, ((resolve path).run { graph, memoize := false }).result = .ok (answer path)) ∧
        ∀ (verify : Bool) (calls : List Call),
          let cache := (afterAll { graph, verify } calls).cache
          cache.keys.Nodup ∧
          (∀ path hit, cache.lookup path = some hit ↔
            (∃ request ∈ requested graph calls, graph.Reaches request path) ∧
              (answer path).status = .resolved ∧
              hit = ⟨path, .resolved, (answer path).value⟩) ∧
          (afterAll { graph, verify } (calls ++ [.resolveAll])).cache.length =
            (graph.paths.filter fun path => (answer path).isResolved).length ∧
          (afterAll { graph, memoize := false, verify } calls).cache = [] := by
  intro graph
  have agrees := agrees_resolutionOf_build settings h
  have holds (memoize verify : Bool) (calls : List Call) :
      Holds graph memoize (requested graph calls)
        (afterAll { graph, memoize, verify } calls).cache :=
    holds_afterAll agrees memoize verify calls (holds_nil graph memoize)
  refine ⟨graph.resolutionOf, ?_, ?_⟩
  · intro path
    obtain ⟨cache, -, ends⟩ :=
      ends_resolve (Machine.sound_nil graph) false false path fun _ => agrees path
    exact ends.result
  intro verify calls
  refine ⟨(holds true verify calls).sound.distinct, ?_, ?_, ?_⟩
  · intro path hit
    rw [(holds true verify calls).lookup_iff, (holds true verify calls).mem_keys]
    constructor
    · rintro ⟨⟨-, resolves, asked⟩, rfl⟩
      exact ⟨asked, resolves, congrArg (Resolution.mk path · _) resolves⟩
    · rintro ⟨asked, resolves, rfl⟩
      exact ⟨⟨rfl, resolves, asked⟩, congrArg (Resolution.mk path · _) resolves.symm⟩
  · apply (holds true verify (calls ++ [Call.resolveAll])).length_eq
    unfold requested
    rw [List.foldl_append]
    exact List.subset_append_right _ _
  · have none : ∀ path,
        path ∉ Entries.keys (afterAll { graph, memoize := false, verify } calls).cache :=
      fun path known =>
        absurd (((holds false verify calls).mem_keys path).mp known).1 Bool.false_ne_true
    exact List.map_eq_nil_iff.mp (List.eq_nil_iff_forall_not_mem.mpr none)

theorem cache_afterAll_frameWithin :
    (∀ tree ∈ [frameWithin], tree.isWellKeyed = true) ∧
      ∃ answer : String → Resolution,
        (∀ path, ((resolve path).run
          { graph := Graph.build {} [frameWithin], memoize := false }).result =
            .ok (answer path)) ∧
        ∀ path hit,
          (afterAll { graph := Graph.build {} [frameWithin] }
              [.resolve "width", .clearCache, .resolve "frame"]).cache.lookup path = some hit ↔
            (∃ request ∈ ["frame"], (Graph.build {} [frameWithin]).Reaches request path) ∧
              (answer path).status = .resolved ∧ hit = ⟨path, .resolved, (answer path).value⟩ := by
  have h : ∀ tree ∈ [frameWithin], tree.isWellKeyed = true := by decide
  obtain ⟨answer, fresh, cached⟩ := cache_afterAll {} [frameWithin] h
  exact ⟨h, answer, fresh, (cached false [.resolve "width", .clearCache, .resolve "frame"]).2.1⟩

end DesignTokens.Resolver
