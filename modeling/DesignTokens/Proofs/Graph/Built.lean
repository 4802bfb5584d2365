import DesignTokens.Graph
import DesignTokens.Proofs.Tree.Children

/-! What holds of every graph that is built from trees: each of its nodes comes from
one token of the walks, with the content that this very token has. -/
namespace DesignTokens

namespace Graph

variable {settings : Settings}

/-- One tree of fields gives the graph of its walk by recursion. -/
theorem build_object (fields : Entries Value) :
    build settings [.object fields] = ofVisits settings (Tree.visitsBelow settings [] fields) := by
  rw [build, List.flatMap_singleton, Tree.walk_object]

theorem node?_add_token (graph : Graph) (token : Token) (path : String) :
    (graph.add settings (.token token)).node? path =
      if path = token.path then some ⟨token, contentOf settings token⟩ else graph.node? path := by
  unfold node?
  dsimp only [add]
  by_cases same : path = token.path
  · rw [if_pos same, same, Entries.lookup_put_self]
  · rw [if_neg same, Entries.lookup_put_of_ne _ _ same]

theorem node?_foldl_add (visits : List Tree.Visit) (graph : Graph) {path : String} {node : Node}
    (found : (visits.foldl (add settings) graph).node? path = some node) :
    graph.node? path = some node ∨
      ∃ token, .token token ∈ visits ∧ token.path = path ∧
        node = ⟨token, contentOf settings token⟩ := by
  induction visits generalizing graph with
  | nil => exact .inl found
  | cons visit rest ih =>
    rcases ih (graph.add settings visit) found with before | ⟨token, later, known⟩
    · cases visit with
      | skipped node => exact .inl before
      | token token =>
        rw [node?_add_token] at before
        split at before
        · next same =>
          exact .inr ⟨token, List.mem_cons_self, same.symm, (Option.some.inj before).symm⟩
        · exact .inl before
    · exact .inr ⟨token, List.mem_cons_of_mem _ later, known⟩

theorem node?_build {trees : List Value} {path : String} {node : Node}
    (found : (build settings trees).node? path = some node) :
    ∃ tree ∈ trees, ∃ token, .token token ∈ Tree.walk settings tree ∧ token.path = path ∧
      node = ⟨token, contentOf settings token⟩ := by
  rcases node?_foldl_add _ _ found with empty | ⟨token, visited, known⟩
  · contradiction
  · obtain ⟨tree, source, walked⟩ := List.mem_flatMap.mp visited
    exact ⟨tree, source, token, walked, known⟩

/-- The tokens of a graph are found at their own paths. -/
theorem exists_node_of_mem_tokens {trees : List Value} {token : Token}
    (member : token ∈ (build settings trees).tokens.items) :
    ∃ node, (build settings trees).node? token.path = some node := by
  obtain ⟨entry, listed, rfl⟩ := List.mem_map.mp member
  obtain ⟨⟨path, node⟩, among, rfl⟩ := List.mem_map.mp listed
  have found : (build settings trees).node? path = some node :=
    Entries.lookup_of_mem (build settings trees).distinct among
  obtain ⟨tree, -, token, -, rfl, rfl⟩ := node?_build found
  exact ⟨_, found⟩

theorem content_build {trees : List Value} {path : String} {node : Node}
    (found : (build settings trees).node? path = some node) :
    node.content = contentOf settings node.token := by
  obtain ⟨tree, -, token, -, -, rfl⟩ := node?_build found
  rfl

end Graph

namespace Content

theorem value_of_classify_concrete {value held : Value} {extensions : Entries Value}
    (content : classify value extensions = .concrete held) : held = value := by
  unfold classify at content
  split at content
  · contradiction
  · split at content
    · split at content
      · contradiction
      · injection content with same
        exact same.symm
    · contradiction

theorem of_classify_composite {value held : Value} {extensions : Entries Value}
    {first : ReferenceSite} {rest : List ReferenceSite}
    (content : classify value extensions = .composite held first rest) :
    held = value ∧ first :: rest = value.sites ∧ Reference.ofValue? value = none := by
  unfold classify at content
  split at content
  · contradiction
  · next whole =>
    split at content
    · split at content <;> contradiction
    · next sites =>
      injection content with same head tail
      exact ⟨same.symm, by rw [sites, head, tail], whole⟩

end Content

namespace Tree

variable {settings : Settings}

/-- A token is made of the fields of a leaf, for which holds what groups hand down. -/
theorem exists_leaf_of_walk (holds : Value → Prop)
    (down : ∀ fields, holds (.object fields) → ∀ field ∈ fields, holds field.2) {tree : Value}
    (h : holds tree) {token : Token} (walked : .token token ∈ walk settings tree) :
    ∃ above fields, classify settings (.object fields) = .leaf ∧ holds (.object fields) ∧
      token = tokenAt settings above fields := by
  cases tree with
  | object fields =>
    obtain ⟨child, met, visited⟩ := mem_walk_iff.mp walked
    obtain ⟨data, same, leaf, rfl⟩ := child.leaf_of_visit? visited
    have handed := holds_of_mem_childrenBelow holds down h met
    rw [same] at handed
    exact ⟨child.segments, data, leaf, handed, rfl⟩
  | _ =>
    have root := List.mem_singleton.mp walked
    contradiction

theorem isWellKeyed_of_walk {tree : Value} (h : tree.isWellKeyed = true) {token : Token}
    (walked : .token token ∈ walk settings tree) : token.value.isWellKeyed = true := by
  obtain ⟨above, fields, leaf, held, rfl⟩ := exists_leaf_of_walk (·.isWellKeyed = true)
    (fun _ h => (Value.isWellKeyed_object_iff.mp h).2) h walked
  exact Value.isWellKeyed_of_lookup held (lookup_of_leaf leaf above).2

end Tree

theorem Graph.isWellKeyed_build {settings : Settings} {trees : List Value}
    (h : ∀ tree ∈ trees, tree.isWellKeyed = true) {path : String} {node : Node}
    (found : (build settings trees).node? path = some node) :
    node.token.value.isWellKeyed = true := by
  obtain ⟨tree, source, token, walked, -, rfl⟩ := node?_build found
  exact Tree.isWellKeyed_of_walk (h tree source) walked

end DesignTokens
