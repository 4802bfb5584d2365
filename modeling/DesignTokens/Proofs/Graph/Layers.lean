import DesignTokens.Proofs.Entries.Overlay
import DesignTokens.Proofs.Graph.Dangling
import DesignTokens.Proofs.Graph.Skipped

/-! Trees laid over one another. The last declaration of a path counts, at the place of the
first one, and nothing is left of those it replaces. -/
namespace DesignTokens.Graph

variable (settings : Settings)

/-- All tokens that the walks of the trees come to, one tree after the other. -/
def declarations (trees : List Value) : List Token := trees.flatMap (Tree.tokens settings)

def nodeOf (token : Token) : Node := ⟨token, contentOf settings token⟩

def declaredNodes (trees : List Value) : Entries Node :=
  (declarations settings trees).map fun token => (token.path, nodeOf settings token)

theorem declaredNodes_append (lower upper : List Value) :
    declaredNodes settings (lower ++ upper) =
      declaredNodes settings lower ++ declaredNodes settings upper := by
  rw [declaredNodes, declarations, List.flatMap_append, List.map_append]
  rfl

theorem lookup_map_path {α : Type} (f : Token → α) (tokens : List Token) (path : String) :
    (tokens.map fun token => (token.path, f token)).lookup path =
      (tokens.find? (·.path = path)).map f := by
  induction tokens with
  | nil => rfl
  | cons token rest ih =>
    rw [List.map_cons, List.lookup_cons, List.find?_cons]
    by_cases same : token.path = path
    · rw [beq_iff_eq.mpr same.symm, decide_eq_true same]
      rfl
    · rw [beq_eq_false_iff_ne.mpr (Ne.symm same), decide_eq_false same, ih]

theorem nodes_foldl_add (visits : List Tree.Visit) (graph : Graph) :
    (visits.foldl (add settings) graph).nodes =
      Entries.putAll ((visits.filterMap Tree.Visit.token?).map fun token =>
        (token.path, nodeOf settings token)) graph.nodes := by
  induction visits generalizing graph with
  | nil => rfl
  | cons visit rest ih =>
    rw [List.foldl_cons, ih]
    cases visit with
    | token token => rfl
    | skipped node => rfl

theorem nodes_build (trees : List Value) :
    (build settings trees).nodes = Entries.ofPairs (declaredNodes settings trees) := by
  rw [build, ofVisits, nodes_foldl_add, List.filterMap_flatMap]
  rfl

/-- The last declaration of the path, with its content. -/
theorem node?_build_eq (trees : List Value) (path : String) :
    (build settings trees).node? path =
      ((declarations settings trees).reverse.find? (·.path = path)).map (nodeOf settings) := by
  rw [node?, nodes_build, Entries.lookup_ofPairs, declaredNodes, ← List.map_reverse,
    lookup_map_path]

theorem node?_build_append (lower upper : List Value) (path : String) :
    (build settings (lower ++ upper)).node? path =
      ((build settings upper).node? path).or ((build settings lower).node? path) := by
  rw [node?_build_eq, node?_build_eq, node?_build_eq, declarations, List.flatMap_append,
    List.reverse_append, List.find?_append, Option.map_or]
  rfl

theorem paths_build_append (lower upper : List Value) :
    (build settings (lower ++ upper)).paths =
      (build settings lower).paths ++
        (build settings upper).paths.filter (!(build settings lower).has ·) := by
  have known (path : String) :
      decide (path ∉ Entries.keys (Entries.ofPairs (declaredNodes settings lower))) =
        !(build settings lower).has path := by
    rw [← nodes_build, decide_not, Bool.not_inj_iff, Bool.eq_iff_iff, decide_eq_true_iff]
    exact has_iff_mem_paths.symm
  rw [paths, nodes_build, declaredNodes_append, Entries.ofPairs_append, Entries.keys_putAll,
    paths, nodes_build, paths, nodes_build, Entries.keys_ofPairs (declaredNodes settings upper)]
  simp only [known]

theorem skipped_build_append (lower upper : List Value) :
    (build settings (lower ++ upper)).skipped =
      (build settings lower).skipped ++ (build settings upper).skipped := by
  rw [skipped_build, skipped_build, skipped_build, List.flatMap_append]

theorem tokens_build (trees : List Value) :
    (build settings trees).tokens =
      Entries.ofPairs ((declarations settings trees).map fun token => (token.path, token)) := by
  have mapped : (build settings trees).tokens =
      (build settings trees).nodes.mapItems fun _ node => node.token := rfl
  rw [mapped, nodes_build, Entries.mapItems_ofPairs, Entries.mapItems, declaredNodes, List.map_map]
  rfl

theorem contents_build (trees : List Value) :
    (build settings trees).contents =
      Entries.ofPairs ((declarations settings trees).map fun token =>
        (token.path, contentOf settings token)) := by
  have mapped : (build settings trees).contents =
      (build settings trees).nodes.mapItems fun _ node => node.content := rfl
  rw [mapped, nodes_build, Entries.mapItems_ofPairs, Entries.mapItems, declaredNodes, List.map_map]
  rfl

/-- Edges lead to what the content of a token refers to, if that is anything. -/
theorem mem_edges_iff {graph : Graph} {path : String} {targets : List String} :
    (path, targets) ∈ graph.edges ↔
      targets ≠ [] ∧ ∃ content, graph.contents.lookup path = some content ∧
        content.targets = targets := by
  have listed : (path, targets) ∈ graph.edges ↔
      path ∈ graph.edges.keys ∧ graph.referencesOf path = targets := by
    conv => lhs; rw [edges_eq]
    simp
  rw [listed, keys_edges, List.mem_filter, decide_eq_true_iff, ← has_iff_mem_paths, has_iff,
    lookup_contents_eq, referencesOf_eq]
  cases graph.node? path with
  | none => simp
  | some node =>
    simp only [Option.some.injEq, exists_eq', true_and, Option.map_some, Option.getD_some,
      exists_eq_left']
    constructor
    · rintro ⟨some, rfl⟩
      exact ⟨some, rfl⟩
    · rintro ⟨some, rfl⟩
      exact ⟨some, rfl⟩

/-- The tables of a graph are those of the declarations, each table written on its own, and
they fit each other. -/
structure Tabulates (settings : Settings) (trees : List Value) (graph : Graph) : Prop where
  tokens : graph.tokens =
    Entries.ofPairs ((declarations settings trees).map fun token => (token.path, token))
  contents : graph.contents =
    Entries.ofPairs ((declarations settings trees).map fun token =>
      (token.path, contentOf settings token))
  keys_contents : graph.contents.keys = graph.tokens.keys
  /-- A content is that of the very token at its path. -/
  content : ∀ path token, graph.tokens.lookup path = some token →
    token.path = path ∧ graph.contents.lookup path = some (.classify token.value
      (if settings.aliasExtension.isTruthy then token.extensions else []))
  /-- There is an edge for every content that refers to something, and no other one. -/
  mem_edges_iff : ∀ path targets, (path, targets) ∈ graph.edges ↔
    targets ≠ [] ∧ ∃ content, graph.contents.lookup path = some content ∧
      content.targets = targets
  nodup_edges : graph.edges.keys.Nodup

theorem tabulates_build (trees : List Value) :
    Tabulates settings trees (build settings trees) where
  tokens := tokens_build settings trees
  contents := contents_build settings trees
  keys_contents := by
    rw [tokens_build, contents_build, Entries.keys_ofPairs, Entries.keys_ofPairs, Entries.keys,
      Entries.keys, List.map_map, List.map_map]
    rfl
  content path token found := by
    rw [lookup_tokens_eq] at found
    obtain ⟨node, known, rfl⟩ := Option.map_eq_some_iff.mp found
    rw [lookup_contents_eq, known, Option.map_some]
    rw [node?_build_eq] at known
    obtain ⟨token, last, rfl⟩ := Option.map_eq_some_iff.mp known
    have named := List.find?_some last
    rw [decide_eq_true_iff] at named
    exact ⟨named, rfl⟩
  mem_edges_iff _ _ := mem_edges_iff
  nodup_edges := nodup_keys_edges _

/-- What becomes of a graph when further trees are laid over its own. -/
structure Layers (settings : Settings) (lower upper : List Value) (graph : Graph) : Prop where
  /-- The last declaration of all counts. -/
  last : ∀ path, graph.tokens.lookup path =
    (declarations settings (lower ++ upper)).reverse.find? (·.path = path)
  /-- A path that the upper trees declare has the token and the content that it has in their
  graph, and every other path those that it has in the graph of the lower trees. -/
  node : ∀ path, graph.node? path =
    ((build settings upper).node? path).or ((build settings lower).node? path)
  paths : graph.paths = (build settings lower).paths ++
    (build settings upper).paths.filter (!(build settings lower).has ·)
  skipped : graph.skipped = (build settings lower).skipped ++ (build settings upper).skipped
  tables : Tabulates settings (lower ++ upper) graph

theorem build_append (lower upper : List Value) :
    Layers settings lower upper (build settings (lower ++ upper)) where
  last path := by
    rw [lookup_tokens_eq, node?_build_eq, Option.map_map]
    exact Option.map_id'
  node := node?_build_append settings lower upper
  paths := paths_build_append settings lower upper
  skipped := skipped_build_append settings lower upper
  tables := tabulates_build settings (lower ++ upper)

end DesignTokens.Graph
