import DesignTokens.Proofs.Cycle.Pruned
import DesignTokens.Proofs.Resolution.Redeclared
import DesignTokens.Proofs.Resolver.Calls

/-! Resolving what has been resolved. Tokens that declare their results resolve to these
very results, and what is reported of the references that fail is reported again. -/
namespace DesignTokens.Resolver

theorem resolveAll_redeclare (settings : Settings)
    (off : settings.aliasExtension.isTruthy = false) (trees : List Value)
    (h : ∀ tree ∈ trees, tree.isWellKeyed = true) :
    let graph := Graph.build settings trees
    ∃ results : Entries Resolution,
      (∀ memoize verify,
        (resolveAll.run { graph, memoize, verify }).result = .ok results) ∧
      let again := graph.redeclare settings results
      (∀ memoize verify,
        (resolveAll.run { graph := again, memoize, verify }).result = .ok results) ∧
      again.dangling = graph.dangling ∧ again.cycles = graph.cycles := by
  intro graph
  have plain : graph.IsPlain := Graph.isPlain_build off h
  have agrees := agrees_resolutionOf_build settings h
  refine ⟨graph.resolutions, ?_, ?_⟩
  · intro memoize verify
    obtain ⟨cache, -, ends⟩ :=
      ends_resolveAll agrees memoize verify (Machine.sound_nil graph)
    exact ends.result
  intro again
  have prunes : graph.Prunes graph.fails again := plain.prunes_redeclare off
  have same : again.resolutionOf = graph.resolutionOf := by
    funext path
    unfold Graph.resolutionOf
    rw [plain.answer_redeclare off path]
  refine ⟨?_, prunes.dangling_eq, Cycle.cycles_of_prunes prunes⟩
  intro memoize verify
  have agreesAgain (path : String) :
      (again.resolutionOf path).agrees (again.resolutionOf path) = true := by
    rw [same]
    exact agrees path
  obtain ⟨cache, -, ends⟩ :=
    ends_resolveAll agreesAgain memoize verify (Machine.sound_nil again)
  rw [ends.result, same, prunes.paths]
  rfl

theorem resolveAll_redeclare_frameWithin :
    ({ aliasExtension := .bool false } : Settings).aliasExtension.isTruthy = false ∧
      (∀ tree ∈ [frameWithin], tree.isWellKeyed = true) ∧
      let graph := Graph.build { aliasExtension := .bool false } [frameWithin]
      ∃ results : Entries Resolution,
        (resolveAll.run { graph, verify := true }).result = .ok results ∧
        let again := graph.redeclare { aliasExtension := .bool false } results
        (resolveAll.run { graph := again, verify := true }).result = .ok results ∧
        again.dangling = graph.dangling ∧ again.cycles = graph.cycles := by
  have h : ∀ tree ∈ [frameWithin], tree.isWellKeyed = true := by decide
  obtain ⟨results, once, twice, reports⟩ :=
    resolveAll_redeclare { aliasExtension := .bool false } rfl [frameWithin] h
  exact ⟨rfl, h, results, once true true, twice true true, reports⟩

end DesignTokens.Resolver
