import DesignTokens.Proofs.Content
import Mathlib.Data.List.Nodup

/-! What is reported as dangling: every reference to a path that is no token, once, under
the path it leads to. -/
namespace DesignTokens

/-- Items that map to nothing may be left out before. -/
theorem flatMap_filter_of_nil {α β : Type} {keep : α → Bool} {f : α → List β}
    (none : ∀ item, keep item = false → f item = []) (items : List α) :
    (items.filter keep).flatMap f = items.flatMap f := by
  induction items with
  | nil => rfl
  | cons item rest ih =>
    cases kept : keep item with
    | true => rw [List.filter_cons_of_pos kept, List.flatMap_cons, List.flatMap_cons, ih]
    | false =>
      rw [List.filter_cons_of_neg (Bool.not_eq_true _ ▸ kept), List.flatMap_cons, none item kept,
        ih]
      rfl

namespace Graph

variable {graph : Graph}

theorem keys_edges (graph : Graph) :
    graph.edges.keys = graph.paths.filter fun path => graph.referencesOf path ≠ [] := by
  have each : ∀ entry ∈ graph.nodes,
      decide (graph.referencesOf entry.1 ≠ []) = decide (entry.2.content.targets ≠ []) := by
    rintro ⟨path, node⟩ member
    have found : graph.node? path = some node := Entries.lookup_of_mem graph.distinct member
    rw [referencesOf_eq, found]
    rfl
  rw [paths, Entries.keys, Entries.keys, List.filter_map, edges]
  generalize graph.nodes = nodes at each ⊢
  induction nodes with
  | nil => rfl
  | cons entry rest ih =>
    obtain ⟨first, others⟩ := List.forall_mem_cons.mp each
    obtain ⟨path, node⟩ := entry
    have kept : ((fun path => decide (graph.referencesOf path ≠ [])) ∘ Prod.fst) (path, node) =
        decide (node.content.targets ≠ []) := first
    rw [List.filterMap_cons, List.filter_cons, kept]
    by_cases empty : node.content.targets = []
    · simp only [empty, ne_eq, not_true_eq_false, decide_false, if_true, Bool.false_eq_true,
        if_false]
      exact ih others
    · simp only [empty, ne_eq, not_false_eq_true, decide_true, if_true, if_false, List.map_cons]
      exact congrArg (path :: ·) (ih others)

theorem nodup_keys_edges (graph : Graph) : graph.edges.keys.Nodup := by
  rw [keys_edges]
  exact List.Nodup.filter _ graph.distinct

theorem edges_eq (graph : Graph) :
    graph.edges = graph.edges.keys.map fun path => (path, graph.referencesOf path) :=
  (Entries.map_keys_lookup graph.nodup_keys_edges []).symm

/-- The missing targets of a path, as the report of dangling references collects them. -/
def danglingFrom (graph : Graph) (source : String) : List (String × String) :=
  ((graph.referencesOf source).filter (!graph.has ·)).map fun target => (target, source)

/-- The pairs that are gathered into the report. -/
def danglingPairs (graph : Graph) : List (String × String) :=
  graph.paths.flatMap graph.danglingFrom

theorem dangling_eq (graph : Graph) :
    graph.dangling = graph.danglingPairs.foldl
      (fun groups pair => Entries.gather pair.1 pair.2 groups) [] := by
  have each : graph.danglingPairs = graph.edges.keys.flatMap graph.danglingFrom := by
    rw [keys_edges]
    refine (flatMap_filter_of_nil ?_ graph.paths).symm
    intro path none
    rw [danglingFrom, of_not_not (of_decide_eq_false none)]
    rfl
  rw [each, dangling]
  conv => lhs; rw [edges_eq, List.flatMap_map]
  rfl

/-- The token refers to a path that is no token. -/
def Dangles (graph : Graph) (source target : String) : Prop :=
  graph.Refers source target ∧ graph.has target = false

theorem mem_danglingFrom {source : String} {pair : String × String} :
    pair ∈ graph.danglingFrom source ↔ pair.2 = source ∧ graph.Dangles source pair.1 := by
  obtain ⟨target, other⟩ := pair
  rw [danglingFrom, List.mem_map]
  constructor
  · rintro ⟨missing, left, same⟩
    obtain ⟨rfl, rfl⟩ := Prod.mk.inj same
    rw [List.mem_filter, Bool.not_eq_true'] at left
    exact ⟨rfl, left⟩
  · rintro ⟨rfl, refers, unknown⟩
    exact ⟨target, List.mem_filter.mpr ⟨refers, congrArg not unknown⟩, rfl⟩

theorem mem_danglingPairs {source target : String} :
    (target, source) ∈ graph.danglingPairs ↔ graph.Dangles source target := by
  rw [danglingPairs, List.mem_flatMap]
  constructor
  · rintro ⟨path, -, member⟩
    obtain ⟨rfl, dangles⟩ := mem_danglingFrom.mp member
    exact dangles
  · intro dangles
    exact ⟨source, has_iff_mem_paths.mp dangles.1.has, mem_danglingFrom.mpr ⟨rfl, dangles⟩⟩

/-- Neither a token nor one of its targets comes twice. -/
theorem nodup_danglingPairs (graph : Graph) : graph.danglingPairs.Nodup := by
  rw [danglingPairs, List.nodup_flatMap]
  constructor
  · intro source _
    apply ((graph.nodup_referencesOf source).filter _).map
    intro target other same
    exact congrArg Prod.fst same
  · have distinct : graph.paths.Nodup := graph.distinct
    refine distinct.imp ?_
    intro source other different pair member again
    exact different ((mem_danglingFrom.mp member).1.symm.trans (mem_danglingFrom.mp again).1)

theorem spread_dangling_perm (graph : Graph) :
    graph.dangling.spread.Perm graph.danglingPairs := by
  rw [dangling_eq]
  exact Entries.spread_foldl_gather_perm _ []

theorem nodup_keys_dangling (graph : Graph) : graph.dangling.keys.Nodup := by
  rw [dangling_eq]
  exact Entries.nodup_keys_foldl_gather _ List.nodup_nil

theorem nodup_spread_dangling (graph : Graph) : graph.dangling.spread.Nodup :=
  graph.spread_dangling_perm.nodup_iff.mpr graph.nodup_danglingPairs

theorem mem_spread_dangling {source target : String} :
    (target, source) ∈ graph.dangling.spread ↔ graph.Dangles source target :=
  graph.spread_dangling_perm.mem_iff.trans mem_danglingPairs

theorem dangling_eq_nil_iff :
    graph.dangling = [] ↔ ∀ source target, ¬ graph.Dangles source target := by
  constructor
  · intro none source target dangles
    rw [← mem_spread_dangling, none] at dangles
    exact List.not_mem_nil dangles
  · intro none
    have empty : graph.danglingPairs = [] :=
      List.eq_nil_iff_forall_not_mem.mpr fun pair member => none _ _ (mem_danglingPairs.mp member)
    rw [dangling_eq, empty]
    rfl

/-- The last step of a way from a token to what is no token. -/
theorem Reaches.exists_dangles {path goal : String} (reached : graph.Reaches path goal)
    (known : graph.has path = true) (unknown : graph.has goal = false) :
    ∃ source, graph.Dangles source goal := by
  rcases Relation.ReflTransGen.cases_tail reached with same | ⟨source, -, refers⟩
  · rw [same, known] at unknown
    contradiction
  · exact ⟨source, refers, unknown⟩

end Graph

end DesignTokens
