import DesignTokens.Proofs.Resolution.Rule

/-! Resolution does not depend on the chain it is part of. Whatever resolves in some
chain resolves to the same value in every other, and a chain whose paths all lead
to a token cannot change how that token fails. So the rule can be read with one
independent request for every reference. -/
namespace DesignTokens

variable {graph : Graph} {visited : List String} {path : String} {via : Option Reference}

/-- The answer to a request for a path, with nothing visited before. -/
def Graph.answer (graph : Graph) (path : String) : Status × Value := resolution graph [] path none

def Resolution.ofAnswer (path : String) (answer : Status × Value) : Resolution :=
  ⟨path, answer.1, answer.2⟩

/-- What every resolver of the graph comes to for a path. -/
def Graph.resolutionOf (graph : Graph) (path : String) : Resolution :=
  .ofAnswer path (graph.answer path)

theorem resolution_eq_of_resolved {earlier : List String} {other : Option Reference}
    (resolves : (resolution graph visited path via).1 = .resolved)
    (resolvesToo : (resolution graph earlier path other).1 = .resolved) :
    resolution graph visited path via = resolution graph earlier path other := by
  induction visited, path using resolution_induction graph
    generalizing earlier via other with
  | absent visited path absent =>
    rw [resolution_of_absent absent] at resolves
    contradiction
  | seen visited path node found seen =>
    rw [resolution_of_visited found seen] at resolves
    contradiction
  | step visited path node found new ih =>
    have newToo : path ∉ earlier := by
      intro seen
      rw [resolution_of_visited found seen] at resolvesToo
      contradiction
    have refers {target : String} (member : target ∈ node.content.targets) :
        graph.Refers path target := (Graph.refers_iff found).mpr member
    cases content : node.content with
    | concrete value =>
      rw [resolution_of_concrete found new content, resolution_of_concrete found newToo content]
    | «alias» reference =>
      rw [resolution_of_alias found new content] at resolves ⊢
      rw [resolution_of_alias found newToo content] at resolvesToo ⊢
      rw [handOn_status] at resolves resolvesToo
      rw [handOn_of_resolved _ resolves, handOn_of_resolved _ resolvesToo]
      apply ih _ (refers _) resolves resolvesToo
      rw [content, Content.mem_targets_alias]
    | composite value first rest =>
      rw [resolution_of_composite found new content] at resolves ⊢
      rw [resolution_of_composite found newToo content] at resolvesToo ⊢
      rw [assemble_status, Status.worst_eq_resolved_iff, List.forall_mem_map]
        at resolves resolvesToo
      have same (site : ReferenceSite) (member : site ∈ first :: rest) :
          below graph (path :: visited) site.reference =
            below graph (path :: earlier) site.reference := by
        apply ih _ (refers _) (resolves site member) (resolvesToo site member)
        rw [content, Content.mem_targets_composite]
        exact ⟨site, member, rfl⟩
      apply assemble_congr
      · intro site member
        rw [same site member]
      · intro site member _
        exact same site member

/-- What resolves inside a chain is the answer to an independent request. -/
theorem resolution_eq_answer (resolves : (resolution graph visited path via).1 = .resolved) :
    resolution graph visited path via = graph.answer path := by
  apply resolution_eq_of_resolved resolves
  rw [status_eq_resolved_iff] at resolves ⊢
  exact resolves.without_visited

theorem status_of_chain
    (leads : ∀ before ∈ visited, Relation.TransGen graph.Refers before path) :
    (resolution graph visited path via).1 = (graph.answer path).1 := by
  apply Status.eq_of_iff
  · rw [status_eq_resolved_iff, Graph.answer, status_eq_resolved_iff]
    exact Graph.grounded_of_chain leads
  · rw [status_eq_cyclic_iff, Graph.answer, status_eq_cyclic_iff]
    exact Graph.loops_of_chain leads

/-- A resolved answer is the same inside any chain that leads to its token. -/
theorem resolution_of_chain
    (leads : ∀ before ∈ visited, Relation.TransGen graph.Refers before path)
    (resolves : (graph.answer path).1 = .resolved) :
    resolution graph visited path via = graph.answer path := by
  apply resolution_eq_answer
  rw [status_of_chain leads, resolves]

/-- A request fails in a cycle when it can come to one. -/
theorem answer_status_eq_cyclic_iff :
    (graph.answer path).1 = .cyclic ↔
      ∃ goal, graph.Reaches path goal ∧ graph.OnCycle goal := by
  rw [Graph.answer, status_eq_cyclic_iff, Graph.loops_nil_iff]

theorem answer_status_eq_resolved_iff :
    (graph.answer path).1 = .resolved ↔
      (¬ ∃ goal, graph.Reaches path goal ∧ graph.OnCycle goal) ∧
        ¬ ∃ goal, graph.Reaches path goal ∧ graph.has goal = false := by
  rw [Graph.answer, status_eq_resolved_iff, Graph.grounded_nil_iff]

theorem answer_status_eq_missing_iff :
    (graph.answer path).1 = .missing ↔
      (¬ ∃ goal, graph.Reaches path goal ∧ graph.OnCycle goal) ∧
        ∃ goal, graph.Reaches path goal ∧ graph.has goal = false := by
  have others : (graph.answer path).1 = .missing ↔
      (graph.answer path).1 ≠ .cyclic ∧ (graph.answer path).1 ≠ .resolved := by
    cases (graph.answer path).1 <;> simp
  rw [others, Ne, Ne, answer_status_eq_cyclic_iff, answer_status_eq_resolved_iff]
  apply and_congr_right
  intro free
  rw [not_and_not_right]
  exact ⟨fun absent => absent free, fun absent _ => absent⟩

/-- Whatever a resolved path leads to is resolved. -/
theorem answer_resolved_of_reaches {goal : String} (resolves : (graph.answer path).1 = .resolved)
    (reached : graph.Reaches path goal) : (graph.answer goal).1 = .resolved := by
  rw [Graph.answer, status_eq_resolved_iff] at resolves ⊢
  intro further onward
  exact resolves further (reached.trans onward)

theorem mem_paths_of_resolved (resolves : (graph.answer path).1 = .resolved) :
    path ∈ graph.paths := by
  rw [Graph.answer, status_eq_resolved_iff] at resolves
  obtain ⟨node, found⟩ := Graph.has_iff.mp (resolves path .refl).1
  exact Graph.mem_paths_of_node? found

theorem not_onCycle_of_resolved (resolves : (graph.answer path).1 = .resolved) :
    ¬ graph.OnCycle path :=
  fun onCycle => (answer_status_eq_resolved_iff.mp resolves).1 ⟨path, .refl, onCycle⟩

theorem answer_of_absent (absent : graph.node? path = none) :
    graph.answer path = (.missing, .null) :=
  resolution_of_absent absent

theorem answer_of_concrete {node : Node} (found : graph.node? path = some node) {value : Value}
    (content : node.content = .concrete value) : graph.answer path = (.resolved, value) :=
  resolution_of_concrete found List.not_mem_nil content

/-- The references of a token are followed with the token alone on the chain, which
leads to each of them. -/
theorem below_eq_answer {reference : Reference} (refers : graph.Refers path reference.path) :
    (below graph [path] reference).1 = (graph.answer reference.path).1 ∧
      ((below graph [path] reference).1 = .resolved →
        below graph [path] reference = graph.answer reference.path) := by
  refine ⟨status_of_chain ?_, resolution_eq_answer⟩
  intro before member
  rw [List.mem_singleton.mp member]
  exact .single refers

theorem answer_of_alias {node : Node} (found : graph.node? path = some node)
    {reference : Reference} (content : node.content = .alias reference) :
    graph.answer path = handOn node.token.value (graph.answer reference.path) := by
  have refers : graph.Refers path reference.path := by
    rw [Graph.refers_iff found, content, Content.mem_targets_alias]
  obtain ⟨status, value⟩ := below_eq_answer refers
  rw [Graph.answer, resolution_of_alias found List.not_mem_nil content]
  by_cases resolves : (below graph [path] reference).1 = .resolved
  · rw [value resolves]
  · rw [handOn_of_failed _ resolves, status]
    rw [status] at resolves
    exact (handOn_of_failed _ resolves).symm

theorem answer_of_composite {node : Node} (found : graph.node? path = some node) {value : Value}
    {first : ReferenceSite} {rest : List ReferenceSite}
    (content : node.content = .composite value first rest) :
    graph.answer path =
      assemble value (first :: rest) fun reference => graph.answer reference.path := by
  have refers (site : ReferenceSite) (member : site ∈ first :: rest) :
      graph.Refers path site.reference.path := by
    rw [Graph.refers_iff found, content, Content.mem_targets_composite]
    exact ⟨site, member, rfl⟩
  rw [Graph.answer, resolution_of_composite found List.not_mem_nil content]
  apply assemble_congr
  · intro site member
    exact (below_eq_answer (refers site member)).1
  · intro site member resolves
    exact (below_eq_answer (refers site member)).2 resolves

namespace Graph

/-- The resolution of a path that is a token. -/
def resolution? (graph : Graph) (path : String) : Option Resolution :=
  if graph.has path then some (graph.resolutionOf path) else none

/-- What every resolver of the graph comes to for all its tokens. -/
def resolutions (graph : Graph) : Entries Resolution :=
  graph.paths.map fun path => (path, graph.resolutionOf path)

@[simp] theorem keys_resolutions (graph : Graph) : graph.resolutions.keys = graph.paths := by
  rw [resolutions, Entries.keys, List.map_map]
  exact List.map_id _

theorem lookup_resolutions (known : path ∈ graph.paths) :
    graph.resolutions.lookup path = some (graph.resolutionOf path) := by
  apply Entries.lookup_of_mem
  · rw [keys_resolutions]
    exact graph.distinct
  · exact List.mem_map_of_mem known

end Graph

end DesignTokens
