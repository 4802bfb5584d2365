import DesignTokens.Proofs.Graph.Pruned
import DesignTokens.Proofs.Resolution.Dereferenced

/-! The graph in which every token declares what it resolves to. References that resolve
are gone from it and all others are still there, so it answers as the first graph does. -/
namespace DesignTokens

def Node.redeclare (settings : Settings) (value : Value) (node : Node) : Node :=
  let token := { node.token with value }
  ⟨token, Graph.contentOf settings token⟩

namespace Graph

/-- The same tokens in the same order, each declaring the value of its result. -/
def redeclare (settings : Settings) (results : Entries Resolution) (graph : Graph) : Graph where
  nodes := graph.nodes.mapItems fun path node =>
    node.redeclare settings (((results.lookup path).map (·.value)).getD node.token.value)
  skipped := graph.skipped
  distinct := by
    rw [Entries.keys_mapItems]
    exact graph.distinct

theorem paths_redeclare (settings : Settings) (results : Entries Resolution) (graph : Graph) :
    (graph.redeclare settings results).paths = graph.paths := by
  unfold paths redeclare
  rw [Entries.keys_mapItems]

theorem node?_redeclare (settings : Settings) (graph : Graph) (path : String) :
    (graph.redeclare settings graph.resolutions).node? path =
      (graph.node? path).map fun node => node.redeclare settings (graph.answer path).2 := by
  unfold node? redeclare
  rw [Entries.lookup_mapItems]
  cases found : graph.nodes.lookup path with
  | none => rfl
  | some node =>
    rw [Option.map_some, lookup_resolutions (Entries.mem_keys_of_lookup found)]
    rfl

/-- Whether a request for the path fails. -/
def fails (graph : Graph) (path : String) : Bool := (graph.answer path).1 ≠ .resolved

theorem fails_iff {graph : Graph} {path : String} :
    graph.fails path = true ↔ (graph.answer path).1 ≠ .resolved :=
  decide_eq_true_iff

theorem answer_status_eq_resolved_iff_refers {graph : Graph} {path : String}
    (known : graph.has path = true) :
    (graph.answer path).1 = .resolved ↔
      ∀ target, graph.Refers path target → (graph.answer target).1 = .resolved := by
  obtain ⟨node, found⟩ := has_iff.mp known
  rw [answer, status_eq_resolved_of_new found List.not_mem_nil]
  apply forall₂_congr
  intro target refers
  rw [status_of_chain]
  intro before member
  rw [List.mem_singleton.mp member]
  exact .single refers

theorem Prunes.answer_status {graph pruned : Graph} {keep : String → Bool}
    (h : graph.Prunes keep pruned) (path : String) :
    (pruned.answer path).1 = (graph.answer path).1 := by
  have loops : (∃ goal, pruned.Reaches path goal ∧ pruned.OnCycle goal) ↔
      ∃ goal, graph.Reaches path goal ∧ graph.OnCycle goal := by
    apply exists_congr
    intro goal
    rw [h.onCycle_iff]
    exact and_congr_left fun onCycle => h.reaches_iff (h.onCycle goal onCycle)
  have misses : (∃ goal, pruned.Reaches path goal ∧ pruned.has goal = false) ↔
      ∃ goal, graph.Reaches path goal ∧ graph.has goal = false := by
    apply exists_congr
    intro goal
    rw [h.has_eq]
    exact and_congr_left fun missing => h.reaches_iff (h.missing goal missing)
  apply Status.eq_of_iff
  · rw [answer_status_eq_resolved_iff, answer_status_eq_resolved_iff, loops, misses]
  · rw [answer_status_eq_cyclic_iff, answer_status_eq_cyclic_iff, loops]

/-- The content of every token is told from its value alone. -/
structure IsPlain (graph : Graph) : Prop where
  content : ∀ {path node}, graph.node? path = some node →
    node.content = .classify node.token.value []
  isWellKeyed : ∀ {path node}, graph.node? path = some node → node.token.value.isWellKeyed = true

theorem contentOf_of_off {settings : Settings} (off : settings.aliasExtension.isTruthy = false)
    (token : Token) : contentOf settings token = .classify token.value [] := by
  rw [contentOf, off]
  rfl

theorem isPlain_build {settings : Settings} (off : settings.aliasExtension.isTruthy = false)
    {trees : List Value} (h : ∀ tree ∈ trees, tree.isWellKeyed = true) :
    (build settings trees).IsPlain where
  content found := by rw [content_build found, contentOf_of_off off]
  isWellKeyed found := isWellKeyed_build h found

section

variable {graph : Graph} {path : String} {node : Node}

theorem refers_iff_of_classify (found : graph.node? path = some node)
    (content : node.content = .classify node.token.value []) {target : String} :
    graph.Refers path target ↔
      ∃ site ∈ node.token.value.references, site.reference.path = target := by
  rw [refers_iff found, content, Content.targets_classify, mem_sortedPaths, List.mem_map]

/-- Where every reference fails, the declared value stands. -/
theorem answer_of_all_failing (found : graph.node? path = some node)
    (content : node.content = .classify node.token.value [])
    (failing : ∀ target, graph.Refers path target → (graph.answer target).1 ≠ .resolved) :
    (graph.answer path).2 = node.token.value := by
  have each : ∀ site ∈ node.token.value.references,
      (graph.answer site.reference.path).1 ≠ .resolved := fun site member =>
    failing _ ((refers_iff_of_classify found content).mpr ⟨site, member, rfl⟩)
  rcases Content.classify_cases node.token.value with ⟨reference, sites, kind⟩ | ⟨-, kind⟩ |
    ⟨first, rest, -, sites, kind⟩
  · rw [sites, List.forall_mem_singleton] at each
    rw [answer_of_alias found (content.trans kind), handOn_of_failed _ each]
  · rw [answer_of_concrete found (content.trans kind)]
  · rw [sites] at each
    rw [answer_of_composite found (content.trans kind)]
    exact foldl_writeSite_of_failing each _

end

namespace IsPlain

variable {graph : Graph} (plain : graph.IsPlain) {path : String} {node : Node}

include plain

private theorem isClassified : graph.IsClassified where
  content found := ⟨[], plain.content found⟩
  isWellKeyed := plain.isWellKeyed

/-- An answer refers to what fails, provided that no resolved target refers to anything. -/
private theorem references_answer_of_targets (found : graph.node? path = some node)
    (targets : ∀ target, graph.Refers path target → (graph.answer target).1 = .resolved →
      (graph.answer target).2.references = []) :
    (graph.answer path).2.references =
      node.token.value.references.filter (graph.fails ·.reference.path) := by
  have content := plain.content found
  have each : ∀ site ∈ node.token.value.references,
      (graph.answer site.reference.path).1 = .resolved →
        (graph.answer site.reference.path).2.references = [] := fun site member =>
    targets _ ((refers_iff_of_classify found content).mpr ⟨site, member, rfl⟩)
  rcases Content.classify_cases node.token.value with ⟨reference, sites, kind⟩ | ⟨sites, kind⟩ |
    ⟨first, rest, whole, sites, kind⟩
  · rw [sites, List.forall_mem_singleton] at each
    rw [answer_of_alias found (content.trans kind), sites]
    by_cases resolves : (graph.answer reference.path).1 = .resolved
    · rw [handOn_of_resolved _ resolves, each resolves, List.filter_cons_of_neg]
      · rfl
      · exact fun failing => fails_iff.mp failing resolves
    · rw [handOn_of_failed _ resolves, sites, List.filter_cons_of_pos]
      · rfl
      · exact fails_iff.mpr resolves
  · rw [answer_of_concrete found (content.trans kind), sites]
    rfl
  · exact references_answer_of_composite found (plain.isWellKeyed found) whole sites
      (content.trans kind) each

/-- An answer refers to what its token refers to, as far as that fails. -/
theorem references_answer (found : graph.node? path = some node) :
    (graph.answer path).2.references =
      node.token.value.references.filter (graph.fails ·.reference.path) :=
  plain.references_answer_of_targets found fun _ _ resolves =>
    plain.isClassified.references_of_resolved resolves

variable {settings : Settings} (off : settings.aliasExtension.isTruthy = false)

include off

theorem prunes_redeclare :
    graph.Prunes graph.fails (graph.redeclare settings graph.resolutions) where
  paths := paths_redeclare settings graph.resolutions graph
  references path := by
    rw [referencesOf_eq, referencesOf_eq, node?_redeclare]
    cases found : graph.node? path with
    | none => rfl
    | some node =>
      dsimp only [Option.map_some, Option.getD_some, Node.redeclare]
      rw [contentOf_of_off off, plain.content found, Content.targets_classify,
        Content.targets_classify, plain.references_answer found, ← sortedPaths_filter,
        List.filter_map]
      rfl
  keep_iff path known := by
    rw [fails_iff, Ne, answer_status_eq_resolved_iff_refers known]
    push Not
    simp only [fails_iff]
  missing path unknown := by
    rw [fails_iff, answer_of_absent (node?_of_has_eq_false unknown)]
    exact Status.noConfusion
  onCycle path onCycle := by
    rw [fails_iff]
    exact fun resolves => not_onCycle_of_resolved resolves onCycle

/-- Statuses agree because references left out lead to no failure, and every reference that
is left fails, so the value that is declared now stands. -/
theorem answer_redeclare (path : String) :
    (graph.redeclare settings graph.resolutions).answer path = graph.answer path := by
  have prunes := plain.prunes_redeclare off
  cases found : graph.node? path with
  | none =>
    have absent : (graph.redeclare settings graph.resolutions).node? path = none := by
      rw [node?_redeclare, found]
      rfl
    rw [answer_of_absent found, answer_of_absent absent]
  | some node =>
    have again : (graph.redeclare settings graph.resolutions).node? path =
        some (node.redeclare settings (graph.answer path).2) := by
      rw [node?_redeclare, found]
      rfl
    refine Prod.ext (prunes.answer_status path) ?_
    apply answer_of_all_failing again (contentOf_of_off off _)
    intro target refers
    rw [prunes.answer_status]
    exact fails_iff.mp (prunes.refers_iff.mp refers).2

end IsPlain

end Graph

end DesignTokens
