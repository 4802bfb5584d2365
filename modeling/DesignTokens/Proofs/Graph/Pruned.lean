import DesignTokens.Proofs.Graph.Dangling

/-! Graphs of the same tokens with fewer references. Leaving out only references that lead
to no cycle and to no missing token, all of them, changes neither where the others lead
nor what is reported as dangling. -/
namespace DesignTokens

namespace Graph

/-- The tokens of the graph, referring only to the paths kept among those they referred to
before. What is kept leads to something kept, or is no token. -/
structure Prunes (graph : Graph) (keep : String → Bool) (pruned : Graph) : Prop where
  paths : pruned.paths = graph.paths
  references : ∀ path, pruned.referencesOf path = (graph.referencesOf path).filter keep
  keep_iff : ∀ path, graph.has path = true →
    (keep path = true ↔ ∃ target, graph.Refers path target ∧ keep target = true)
  missing : ∀ path, graph.has path = false → keep path = true
  onCycle : ∀ path, graph.OnCycle path → keep path = true

namespace Prunes

variable {graph pruned : Graph} {keep : String → Bool} (h : graph.Prunes keep pruned)

include h

theorem refers_iff {path target : String} :
    pruned.Refers path target ↔ graph.Refers path target ∧ keep target = true := by
  rw [Refers, h.references, List.mem_filter]
  rfl

/-- Only what is kept leads to what is kept. -/
theorem keep_of_refers {path target : String} (refers : graph.Refers path target)
    (kept : keep target = true) : keep path = true :=
  (h.keep_iff path refers.has).mpr ⟨target, refers, kept⟩

theorem keep_of_reaches {path goal : String} (reached : graph.Reaches path goal)
    (kept : keep goal = true) : keep path = true := by
  induction reached using Relation.ReflTransGen.head_induction_on with
  | refl => exact kept
  | head refers _ ih => exact h.keep_of_refers refers ih

theorem reaches_iff {path goal : String} (kept : keep goal = true) :
    pruned.Reaches path goal ↔ graph.Reaches path goal := by
  constructor
  · intro reached
    exact reached.lift id fun _ _ refers => (h.refers_iff.mp refers).1
  · intro reached
    induction reached using Relation.ReflTransGen.head_induction_on with
    | refl => exact .refl
    | head refers onward ih =>
      exact .head (h.refers_iff.mpr ⟨refers, h.keep_of_reaches onward kept⟩) ih

theorem onCycle_iff {path : String} : pruned.OnCycle path ↔ graph.OnCycle path := by
  constructor
  · intro onCycle
    exact onCycle.lift id fun _ _ refers => (h.refers_iff.mp refers).1
  · intro onCycle
    have kept := h.onCycle path onCycle
    obtain ⟨target, refers, back⟩ := Graph.onCycle_iff.mp onCycle
    exact Graph.onCycle_iff.mpr ⟨target, h.refers_iff.mpr ⟨refers, h.keep_of_reaches back kept⟩,
      (h.reaches_iff kept).mpr back⟩

theorem has_eq (path : String) : pruned.has path = graph.has path := by
  rw [Bool.eq_iff_iff, has_iff_mem_paths, has_iff_mem_paths, h.paths]

/-- A token still refers to something when it is kept. -/
theorem keys_edges : pruned.edges.keys = graph.edges.keys.filter keep := by
  rw [Graph.keys_edges, Graph.keys_edges, h.paths, List.filter_filter]
  apply List.filter_congr
  intro path known
  rw [Bool.eq_iff_iff, Bool.and_eq_true, decide_eq_true_iff, decide_eq_true_iff,
    h.keep_iff path (has_iff_mem_paths.mpr known), h.references, Ne, List.filter_eq_nil_iff]
  push Not
  constructor
  · rintro ⟨target, refers, kept⟩
    exact ⟨⟨target, refers, kept⟩, List.ne_nil_of_mem refers⟩
  · rintro ⟨some, -⟩
    exact some

/-- No reference that is left out is a dangling one. -/
theorem dangling_eq : pruned.dangling = graph.dangling := by
  have each (source : String) : pruned.danglingFrom source = graph.danglingFrom source := by
    unfold danglingFrom
    rw [h.references, List.filter_filter]
    congr 1
    apply List.filter_congr
    intro target _
    rw [h.has_eq]
    cases known : graph.has target with
    | true => rfl
    | false => rw [h.missing target known]; rfl
  rw [Graph.dangling_eq, Graph.dangling_eq, danglingPairs, danglingPairs, h.paths, funext each]

end Prunes

end Graph

end DesignTokens
