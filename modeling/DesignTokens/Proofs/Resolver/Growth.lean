import DesignTokens.Proofs.Resolver.History

/-! Graphs that only gain tokens. What resolved keeps its value and what was cyclic stays
cyclic, so nothing shows that tokens were added but answers that were missing before. -/
namespace DesignTokens

namespace Graph

/-- The other graph has every token of this one, with one declared value and one content. -/
def GrowsInto (graph other : Graph) : Prop := ∀ path ∈ graph.paths, graph.AgreesAt other path

variable {graph other : Graph} {path target : String}

theorem AgreesAt.refers (agrees : graph.AgreesAt other path) (refers : graph.Refers path target) :
    other.Refers path target := by
  cases agrees with
  | absent here => exact absurd refers (not_refers_of_absent here)
  | present here there _ content =>
    rw [refers_iff here, content] at refers
    exact (refers_iff there).mpr refers

theorem GrowsInto.refers (grows : graph.GrowsInto other) (refers : graph.Refers path target) :
    other.Refers path target :=
  (grows path (has_iff_mem_paths.mp refers.has)).refers refers

theorem GrowsInto.reaches (grows : graph.GrowsInto other) (reached : graph.Reaches path target) :
    other.Reaches path target :=
  reached.lift id fun _ _ => grows.refers

/-- New references may close new cycles, and the old ones stay closed. -/
theorem GrowsInto.onCycle (grows : graph.GrowsInto other) (onCycle : graph.OnCycle path) :
    other.OnCycle path :=
  onCycle.lift id fun _ _ => grows.refers

theorem GrowsInto.answer_cyclic (grows : graph.GrowsInto other)
    (cyclic : (graph.answer path).1 = .cyclic) : (other.answer path).1 = .cyclic := by
  rw [answer_status_eq_cyclic_iff] at cyclic ⊢
  obtain ⟨goal, reached, onCycle⟩ := cyclic
  exact ⟨goal, grows.reaches reached, grows.onCycle onCycle⟩

/-- A resolved path leads to tokens only, so none of the paths it leads to can be new. -/
theorem GrowsInto.agreesFrom (grows : graph.GrowsInto other)
    (resolves : (graph.answer path).1 = .resolved) : graph.AgreesFrom other path := by
  intro goal reached
  exact grows goal (mem_paths_of_resolved (answer_resolved_of_reaches resolves reached))

end Graph

namespace Resolver

/-- Two resolvers, one of a graph and one of a graph that it grows into, whatever was asked
before: only a missing answer can become another one. -/
theorem resolve_grows (settings settings' : Settings) (trees trees' : List Value)
    (h : ∀ tree ∈ trees, tree.isWellKeyed = true) (h' : ∀ tree ∈ trees', tree.isWellKeyed = true)
    (grows : (Graph.build settings trees).GrowsInto (Graph.build settings' trees'))
    (memoize memoize' verify verify' : Bool) (calls calls' : List Call) (path : String) :
    ∃ before after,
      ((resolve path).run (afterAll
        { graph := Graph.build settings trees, memoize, verify } calls)).result = .ok before ∧
      ((resolve path).run (afterAll
        { graph := Graph.build settings' trees', memoize := memoize', verify := verify' }
          calls')).result = .ok after ∧
      (before.status = .resolved → after = before) ∧
      (before.status = .cyclic → after.status = .cyclic) ∧
      (after.status ≠ before.status ∨ before.status = .resolved ∧ after.value ≠ before.value →
        before.status = .missing) := by
  have here := result_resolve_afterAll (agrees_resolutionOf_build settings h) memoize verify calls
    path
  have there := result_resolve_afterAll (agrees_resolutionOf_build settings' h') memoize' verify'
    calls' path
  have resolved (resolves : ((Graph.build settings trees).resolutionOf path).status = .resolved) :
      (Graph.build settings' trees').resolutionOf path =
        (Graph.build settings trees).resolutionOf path :=
    (grows.agreesFrom resolves).resolutionOf_eq.symm
  have cyclic (loops : ((Graph.build settings trees).resolutionOf path).status = .cyclic) :
      ((Graph.build settings' trees').resolutionOf path).status = .cyclic :=
    grows.answer_cyclic loops
  refine ⟨_, _, here, there, resolved, cyclic, ?_⟩
  intro changed
  cases status : ((Graph.build settings trees).resolutionOf path).status with
  | missing => rfl
  | resolved =>
    rw [resolved status] at changed
    exact absurd changed (by simp)
  | cyclic =>
    rw [status, cyclic status] at changed
    exact absurd changed (by simp)

/-- A token that refers to itself, one that refers to it and to a token that is not there yet,
and one that waits for that token as well. -/
def begun : Value :=
  let token (value : Value) := Value.object [("$type", .str "other"), ("$value", value)]
  .object [
    ("loop", token (.str "\x7bloop\x7d")),
    ("mixed", token (.list [.str "\x7bloop\x7d", .str "\x7blater\x7d"])),
    ("waits", token (.str "\x7blater\x7d"))]

/-- The missing token is added, and with it a second cycle. -/
def completed : Value :=
  let token (value : Value) := Value.object [("$type", .str "other"), ("$value", value)]
  .object [
    ("later", token (.str "\x7bmixed\x7d")),
    ("waits", token (.str "\x7blater\x7d")),
    ("mixed", token (.list [.str "\x7bloop\x7d", .str "\x7blater\x7d"])),
    ("loop", token (.str "\x7bloop\x7d"))]

theorem begun_grows :
    (Graph.build {} [begun]).GrowsInto (Graph.build {} [completed]) ∧
      ∃ before after,
        ((resolve "mixed").run (afterAll { graph := Graph.build {} [begun] }
          [.resolve "waits"])).result = .ok before ∧
        ((resolve "mixed").run (afterAll { graph := Graph.build {} [completed], verify := true }
          [.resolveAll])).result = .ok after ∧
        before.status = .cyclic ∧ after.status = .cyclic := by
  have grows : (Graph.build {} [begun]).GrowsInto (Graph.build {} [completed]) := by
    have paths : (Graph.build {} [begun]).paths = ["loop", "mixed", "waits"] := by
      rw [begun, Graph.build_object]
      rfl
    have same : ∀ path ∈ ["loop", "mixed", "waits"],
        (Graph.build {} [begun]).node? path = (Graph.build {} [completed]).node? path := by
      rw [begun, completed, Graph.build_object, Graph.build_object, List.forall_mem_cons,
        List.forall_mem_cons, List.forall_mem_singleton]
      exact ⟨rfl, rfl, rfl⟩
    intro path known
    rw [paths] at known
    exact .of_node?_eq (same path known)
  have loops : ((Graph.build {} [begun]).answer "mixed").1 = .cyclic := by
    have mixed : (Graph.build {} [begun]).node? "mixed" = some
        ⟨⟨"mixed", "other", .list [.str "\x7bloop\x7d", .str "\x7blater\x7d"], [], none⟩,
          .composite (.list [.str "\x7bloop\x7d", .str "\x7blater\x7d"])
            ⟨[.index 0], .ofPath "loop"⟩ [⟨[.index 1], .ofPath "later"⟩]⟩ := by
      rw [begun, Graph.build_object]
      rfl
    have loop : (Graph.build {} [begun]).node? "loop" = some
        ⟨⟨"loop", "other", .str "\x7bloop\x7d", [], none⟩, .alias (.ofPath "loop")⟩ := by
      rw [begun, Graph.build_object]
      rfl
    have first : (Graph.build {} [begun]).Refers "mixed" "loop" := by
      rw [Graph.refers_iff mixed, Content.mem_targets_composite]
      exact ⟨_, List.mem_cons_self, rfl⟩
    have again : (Graph.build {} [begun]).Refers "loop" "loop" := by
      rw [Graph.refers_iff loop, Content.mem_targets_alias]
      rfl
    exact answer_status_eq_cyclic_iff.mpr ⟨"loop", .single first, .single again⟩
  have h : ∀ tree ∈ [begun], tree.isWellKeyed = true := by decide
  obtain ⟨before, after, here, there, -, cyclic, -⟩ :=
    resolve_grows {} {} [begun] [completed] h (by decide) grows true true false true
      [.resolve "waits"] [.resolveAll] "mixed"
  obtain rfl := Except.ok.inj (here.symm.trans
    (result_resolve_afterAll (agrees_resolutionOf_build {} h) true false [.resolve "waits"]
      "mixed"))
  exact ⟨grows, _, after, here, there, loops, cyclic loops⟩

end Resolver

end DesignTokens
