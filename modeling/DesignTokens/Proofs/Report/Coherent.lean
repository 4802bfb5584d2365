import DesignTokens.Proofs.Cycle.Complete
import DesignTokens.Proofs.Graph.Dangling
import DesignTokens.Proofs.Session.Run

/-! The parts of a report agree. Outcomes, cycles and dangling references are found in three
different ways, and each of them shows in the others. -/
namespace DesignTokens

namespace Graph

variable {graph : Graph}

theorem OnCycle.answer_cyclic {path : String} (onCycle : graph.OnCycle path) :
    (graph.answer path).1 = .cyclic :=
  answer_status_eq_cyclic_iff.mpr ⟨path, .refl, onCycle⟩

theorem Dangles.answer_not_resolved {source target : String}
    (dangles : graph.Dangles source target) : (graph.answer source).1 ≠ .resolved := by
  intro resolves
  obtain ⟨refers, unknown⟩ := dangles
  exact (answer_status_eq_resolved_iff.mp resolves).2 ⟨target, .single refers, unknown⟩

theorem exists_cyclic_iff :
    (∃ path ∈ graph.paths, (graph.answer path).1 = .cyclic) ↔ graph.cycles ≠ [] := by
  rw [Cycle.cycles_ne_nil_iff]
  constructor
  · rintro ⟨path, -, cyclic⟩
    obtain ⟨goal, -, onCycle⟩ := answer_status_eq_cyclic_iff.mp cyclic
    exact ⟨goal, onCycle⟩
  · rintro ⟨path, onCycle⟩
    exact ⟨path, has_iff_mem_paths.mp onCycle.has, onCycle.answer_cyclic⟩

/-- A token that fails leads to a cycle or to a dangling reference. -/
theorem all_resolved_iff :
    (∀ path ∈ graph.paths, (graph.answer path).1 = .resolved) ↔
      graph.cycles = [] ∧ graph.dangling = [] := by
  rw [dangling_eq_nil_iff, ← not_ne_iff, Cycle.cycles_ne_nil_iff]
  constructor
  · intro resolved
    constructor
    · rintro ⟨path, onCycle⟩
      exact not_onCycle_of_resolved (resolved path (has_iff_mem_paths.mp onCycle.has)) onCycle
    · intro source target dangles
      exact dangles.answer_not_resolved (resolved source (has_iff_mem_paths.mp dangles.1.has))
  · rintro ⟨acyclic, complete⟩ path known
    refine answer_status_eq_resolved_iff.mpr ⟨?_, ?_⟩
    · rintro ⟨goal, -, onCycle⟩
      exact acyclic ⟨goal, onCycle⟩
    · rintro ⟨goal, reached, unknown⟩
      obtain ⟨source, dangles⟩ := reached.exists_dangles (has_iff_mem_paths.mpr known) unknown
      exact complete source goal dangles

end Graph

namespace Report

/-- The outcomes of a report, its cycles, its dangling references and its verdict agree on
the graph. -/
structure Coherent (graph : Graph) (report : Report) : Prop where
  keys : report.results.keys = graph.paths
  named : ∀ entry ∈ report.results, entry.2.path = entry.1
  cyclic_iff : (∃ outcome ∈ report.outcomes, outcome.status = .cyclic) ↔ report.cycles ≠ []
  on_chain : ∀ warning ∈ report.cycles, ∀ path ∈ warning.chain,
    ∃ outcome, report.results.lookup path = some outcome ∧ outcome.status = .cyclic
  dangling_keys : report.dangling.keys.Nodup
  dangling_once : report.dangling.spread.Nodup
  dangling_iff : ∀ target source, (target, source) ∈ report.dangling.spread ↔
    source ∈ graph.paths ∧ target ∈ graph.referencesOf source ∧ target ∉ graph.paths
  dangling_unresolved : ∀ target source, (target, source) ∈ report.dangling.spread →
    ∃ outcome ∈ report.unresolved, report.results.lookup source = some outcome
  unresolved_iff : report.unresolved = [] ↔ report.cycles = [] ∧ report.dangling = []
  clean_iff : report.isClean = true ↔ ∀ outcome ∈ report.outcomes, outcome.status = .resolved

theorem mem_unresolved {report : Report} {outcome : Resolution} :
    outcome ∈ report.unresolved ↔ outcome ∈ report.outcomes ∧ outcome.status ≠ .resolved := by
  rw [unresolved, List.mem_filter, Resolution.isResolved, Bool.not_eq_true',
    decide_eq_false_iff_not]

theorem unresolved_eq_nil_iff {report : Report} :
    report.unresolved = [] ↔ ∀ outcome ∈ report.outcomes, outcome.status = .resolved := by
  simp only [List.eq_nil_iff_forall_not_mem, mem_unresolved, not_and, not_ne_iff]

section

variable {graph : Graph} {report : Report} (results : report.results = graph.resolutions)

include results

theorem outcomes_eq : report.outcomes = graph.paths.map graph.resolutionOf := by
  rw [outcomes, results, Entries.items, Graph.resolutions, List.map_map]
  rfl

theorem coherent (cycles : report.cycles = graph.cycles.map CycleWarning.ofChain)
    (dangling : report.dangling = graph.dangling) : report.Coherent graph where
  keys := by rw [results, Graph.keys_resolutions]
  named := by
    rw [results]
    intro entry member
    obtain ⟨path, -, rfl⟩ := List.mem_map.mp member
    rfl
  cyclic_iff := by
    simp only [outcomes_eq results, List.mem_map, exists_exists_and_eq_and]
    rw [cycles, Ne, List.map_eq_nil_iff]
    exact Graph.exists_cyclic_iff
  on_chain := by
    rw [cycles, results]
    intro warning reported path member
    obtain ⟨chain, found, rfl⟩ := List.mem_map.mp reported
    have onCycle := (Cycle.isCycle_of_mem_cycles found).onCycle member
    exact ⟨_, Graph.lookup_resolutions (Graph.has_iff_mem_paths.mp onCycle.has),
      onCycle.answer_cyclic⟩
  dangling_keys := dangling ▸ graph.nodup_keys_dangling
  dangling_once := dangling ▸ graph.nodup_spread_dangling
  dangling_iff target source := by
    rw [dangling, Graph.mem_spread_dangling, ← @Graph.has_iff_mem_paths graph target,
      Bool.not_eq_true]
    exact ⟨fun dangles => ⟨Graph.has_iff_mem_paths.mp dangles.1.has, dangles⟩, And.right⟩
  dangling_unresolved target source := by
    rw [dangling, Graph.mem_spread_dangling]
    intro dangles
    have known := Graph.has_iff_mem_paths.mp dangles.1.has
    refine ⟨graph.resolutionOf source, ?_, results ▸ Graph.lookup_resolutions known⟩
    rw [mem_unresolved, outcomes_eq results]
    exact ⟨List.mem_map_of_mem known, dangles.answer_not_resolved⟩
  unresolved_iff := by
    rw [unresolved_eq_nil_iff, outcomes_eq results, List.forall_mem_map, cycles,
      List.map_eq_nil_iff, dangling]
    exact Graph.all_resolved_iff
  clean_iff := by
    rw [isClean, decide_eq_true_iff, unresolved_eq_nil_iff, and_iff_left_iff_imp,
      outcomes_eq results, List.forall_mem_map, cycles, List.map_eq_nil_iff]
    exact fun resolved => (Graph.all_resolved_iff.mp resolved).1

end

end Report

/-- A run comes to a report if the values that it compares can be written, and the report is
coherent with the graph that the session is left with. -/
theorem Session.run_coherent (session : Session) (names : List String)
    (types : session.settings.duplicateTypes = .ofTexts names) (room : Nat) (now : Timestamp)
    (trees : List Value) (h : ∀ tree ∈ trees, tree.isWellKeyed = true) (sources : List String)
    (scope : Option Value) :
    let ran := (run room now trees sources scope).run session
    ran.state.graph = Graph.build session.settings trees ∧
      ((∃ report, ran.result = .ok report) ↔ CanCompare room session.settings trees scope) ∧
      ∀ report, ran.result = .ok report → report.Coherent ran.state.graph := by
  intro ran
  have given := types ▸ Datum.members?_ofTexts names
  obtain ⟨after, serves, ends⟩ := ends_run given room now h sources scope
  have built : ran.state.graph = Graph.build session.settings trees := by
    rw [ends.state, serves.graph_eq]
  rw [built, ends.result]
  refine ⟨rfl, exists_reportIn_iff given, fun report found => ?_⟩
  obtain ⟨groups, -, rfl⟩ := reportIn_eq_ok_iff.mp found
  exact Report.coherent rfl rfl rfl

/-- A token that refers to itself, one that refers to no token, and one without references. -/
def stray : Value :=
  let token (value : String) := Value.object [("$type", .str "color"), ("$value", .str value)]
  .object [
    ("loop", token "\x7bloop\x7d"), ("lost", token "\x7bnowhere\x7d"), ("base", token "#36f")]

def newYear : Timestamp := ⟨2026, 1, 1, 0, 0, 0, 0⟩

theorem Session.run_coherent_stray :
    (∀ tree ∈ [stray], tree.isWellKeyed = true) ∧
      ∃ report,
        ((run 0 newYear [stray] [] none).run { settings := {} }).result = .ok report ∧
        report.results.keys = ["loop", "lost", "base"] ∧
        ("nowhere", "lost") ∈ report.dangling.spread ∧ report.isClean = false := by
  have h : ∀ tree ∈ [stray], tree.isWellKeyed = true := by decide
  have compared : (comparedIn {} (Graph.build {} [stray]) [.str "color"] none).map
      (Duplicate.comparedValue (Graph.build {} [stray]).resolutionOf) =
        [.str "\x7bloop\x7d", .str "\x7bnowhere\x7d", .str "#36f"] := by
    rw [stray, Graph.build_object]
    decide +kernel
  have compares : CanCompare 0 {} [stray] none :=
    canCompare_of_values (Datum.members?_ofTexts ["color"]) compared (by decide +kernel)
  obtain ⟨built, given, coherent⟩ :=
    run_coherent { settings := {} } ["color"] rfl 0 newYear [stray] h [] none
  obtain ⟨report, ends⟩ := given.mpr compares
  have coherent := coherent report ends
  rw [built] at coherent
  have paths : (Graph.build {} [stray]).paths = ["loop", "lost", "base"] := by
    rw [stray, Graph.build_object]
    rfl
  have refers : "nowhere" ∈ (Graph.build {} [stray]).referencesOf "lost" := by
    rw [stray, Graph.build_object]
    decide
  have dangling : ("nowhere", "lost") ∈ report.dangling.spread := by
    rw [coherent.dangling_iff, paths]
    exact ⟨by decide, refers, by decide⟩
  refine ⟨h, report, ends, coherent.keys.trans paths, dangling, ?_⟩
  obtain ⟨outcome, failed, -⟩ := coherent.dangling_unresolved _ _ dangling
  obtain ⟨listed, unresolved⟩ := Report.mem_unresolved.mp failed
  rw [← Bool.not_eq_true, coherent.clean_iff]
  exact fun resolved => unresolved (resolved outcome listed)

end DesignTokens
