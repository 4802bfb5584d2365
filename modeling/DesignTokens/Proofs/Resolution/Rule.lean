import DesignTokens.Proofs.Graph.Reachability
import DesignTokens.Resolution
import Mathlib.Data.List.Basic

/-! The rule of resolution, case by case, and the meaning of its status: it is
decided by where references lead, although the rule only ever sees one chain. -/
namespace DesignTokens

variable {graph : Graph} {visited : List String} {path : String} {via : Option Reference}

/-- An alias hands on what its target resolves to, and keeps its own declared value
when the target fails. -/
def handOn (declared : Value) (target : Status × Value) : Status × Value :=
  if target.1 = .resolved then target else (target.1, declared)

/-- One site written, unless its reference fails. -/
def writeSite (answer : Reference → Status × Value) (value : Value) (site : ReferenceSite) :
    Value :=
  if (answer site.reference).1 = .resolved then
    splice value site.location (answer site.reference).2
  else value

def assemble (declared : Value) (sites : List ReferenceSite)
    (answer : Reference → Status × Value) : Status × Value :=
  (Status.worst (sites.map fun site => (answer site.reference).1),
    sites.foldl (writeSite answer) declared)

/-- What a reference answers once the path that holds it has been visited too. -/
def below (graph : Graph) (visited : List String) (reference : Reference) : Status × Value :=
  resolution graph visited reference.path (some reference)

@[simp] theorem handOn_status (declared : Value) (target : Status × Value) :
    (handOn declared target).1 = target.1 := by
  unfold handOn
  split <;> rfl

theorem handOn_of_resolved (declared : Value) {target : Status × Value}
    (resolves : target.1 = .resolved) : handOn declared target = target :=
  if_pos resolves

theorem handOn_of_failed (declared : Value) {target : Status × Value}
    (fails : target.1 ≠ .resolved) : handOn declared target = (target.1, declared) :=
  if_neg fails

theorem handOn_handOn (declared inner : Value) (target : Status × Value) :
    handOn declared (handOn inner target) = handOn declared target := by
  by_cases resolves : target.1 = .resolved
  · rw [handOn_of_resolved inner resolves]
  · rw [handOn_of_failed inner resolves, handOn_of_failed declared resolves]
    exact handOn_of_failed declared resolves

@[simp] theorem assemble_status (declared : Value) (sites : List ReferenceSite)
    (answer : Reference → Status × Value) :
    (assemble declared sites answer).1 =
      Status.worst (sites.map fun site => (answer site.reference).1) := rfl

/-- Only the status of a failed reference counts. -/
theorem assemble_congr {declared : Value} {sites : List ReferenceSite}
    {answer other : Reference → Status × Value}
    (status : ∀ site ∈ sites, (answer site.reference).1 = (other site.reference).1)
    (value : ∀ site ∈ sites, (answer site.reference).1 = .resolved →
      answer site.reference = other site.reference) :
    assemble declared sites answer = assemble declared sites other := by
  have statuses : (sites.map fun site => (answer site.reference).1) =
      sites.map fun site => (other site.reference).1 := List.map_congr_left status
  unfold assemble
  rw [statuses]
  congr 1
  apply List.foldl_ext
  intro written site member
  unfold writeSite
  rw [← status site member]
  split
  · next resolves => rw [value site member resolves]
  · rfl

theorem foldl_writeSite_of_failing {sites : List ReferenceSite}
    {answer : Reference → Status × Value}
    (failing : ∀ site ∈ sites, (answer site.reference).1 ≠ .resolved) (value : Value) :
    sites.foldl (writeSite answer) value = value := by
  induction sites with
  | nil => rfl
  | cons site rest ih =>
    obtain ⟨first, others⟩ := List.forall_mem_cons.mp failing
    rw [List.foldl_cons, writeSite, if_neg first]
    exact ih others

theorem resolution_of_absent (absent : graph.node? path = none) :
    resolution graph visited path via = (.missing, missingValue via) := by
  rw [resolution]
  split
  · rfl
  · next found => rw [absent] at found; contradiction

theorem resolution_of_visited {node : Node} (found : graph.node? path = some node)
    (seen : path ∈ visited) : resolution graph visited path via = (.cyclic, node.token.value) := by
  rw [resolution]
  split
  · next absent => rw [found] at absent; contradiction
  · next other same =>
    obtain rfl : node = other := Option.some.inj (found.symm.trans same)
    rw [dif_pos seen]

/-- At a new token the content decides. -/
theorem resolution_of_new {node : Node} (found : graph.node? path = some node)
    (new : path ∉ visited) :
    resolution graph visited path via =
      match node.content with
      | .concrete value => (.resolved, value)
      | .alias reference => handOn node.token.value (below graph (path :: visited) reference)
      | .composite value first rest =>
        assemble value (first :: rest) (below graph (path :: visited)) := by
  rw [resolution]
  split
  · next absent => rw [found] at absent; contradiction
  · next other same =>
    obtain rfl : node = other := Option.some.inj (found.symm.trans same)
    rw [dif_neg new]
    cases node.content with
    | concrete value => rfl
    | «alias» reference =>
      dsimp only
      unfold below
      split
      · next value resolves =>
        rw [resolves, handOn_of_resolved _ rfl]
      · next status value fails outcome =>
        rw [outcome, handOn_of_failed _ fails]
    | composite value first rest =>
      dsimp only
      rw [List.map_map, List.foldl_map]
      rfl

theorem resolution_of_concrete {node : Node} (found : graph.node? path = some node)
    (new : path ∉ visited) {value : Value} (content : node.content = .concrete value) :
    resolution graph visited path via = (.resolved, value) := by
  simp only [resolution_of_new found new, content]

theorem resolution_of_alias {node : Node} (found : graph.node? path = some node)
    (new : path ∉ visited) {reference : Reference} (content : node.content = .alias reference) :
    resolution graph visited path via =
      handOn node.token.value (below graph (path :: visited) reference) := by
  simp only [resolution_of_new found new, content]

theorem resolution_of_composite {node : Node} (found : graph.node? path = some node)
    (new : path ∉ visited) {value : Value} {first : ReferenceSite} {rest : List ReferenceSite}
    (content : node.content = .composite value first rest) :
    resolution graph visited path via =
      assemble value (first :: rest) (below graph (path :: visited)) := by
  simp only [resolution_of_new found new, content]

/-- Apart from the text left for a path that is no token, the rule does not look at the
reference that was followed. -/
theorem resolution_via {node : Node} (found : graph.node? path = some node)
    (other : Option Reference) :
    resolution graph visited path via = resolution graph visited path other := by
  by_cases seen : path ∈ visited
  · rw [resolution_of_visited found seen, resolution_of_visited found seen]
  · rw [resolution_of_new found seen, resolution_of_new found seen]

/-- Along the rule: every path followed on from a new token, the token now visited. -/
theorem resolution_induction (graph : Graph) {motive : List String → String → Prop}
    (absent : ∀ visited path, graph.node? path = none → motive visited path)
    (seen : ∀ visited path node, graph.node? path = some node → path ∈ visited →
      motive visited path)
    (step : ∀ visited path node, graph.node? path = some node → path ∉ visited →
      (∀ target, graph.Refers path target → motive (path :: visited) target) →
      motive visited path) (visited : List String) (path : String) : motive visited path := by
  induction fewer : graph.unvisited visited using Nat.strongRecOn
    generalizing visited path with
  | _ n ih =>
    subst fewer
    cases found : graph.node? path with
    | none => exact absent visited path found
    | some node =>
      by_cases before : path ∈ visited
      · exact seen visited path node found before
      · apply step visited path node found before
        intro target _
        exact ih _ (Graph.unvisited_lt (Graph.mem_paths_of_node? found) before
          (List.subset_cons_self path visited) List.mem_cons_self) _ _ rfl

theorem status_via (other : Option Reference) :
    (resolution graph visited path via).1 = (resolution graph visited path other).1 := by
  cases found : graph.node? path with
  | none => rw [resolution_of_absent found, resolution_of_absent found]
  | some node => rw [resolution_via found other]

/-- A new token resolves when all its references do. -/
theorem status_eq_resolved_of_new {node : Node} (found : graph.node? path = some node)
    (new : path ∉ visited) :
    (resolution graph visited path via).1 = .resolved ↔
      ∀ target, graph.Refers path target →
        (resolution graph (path :: visited) target none).1 = .resolved := by
  simp only [Graph.refers_iff found]
  cases content : node.content with
  | concrete value => simp [resolution_of_concrete found new content]
  | «alias» reference =>
    rw [resolution_of_alias found new content, handOn_status, below, status_via none]
    simp
  | composite value first rest =>
    rw [resolution_of_composite found new content, assemble_status,
      Status.worst_eq_resolved_iff, List.forall_mem_map]
    simp only [Content.mem_targets_composite, below, status_via none]
    constructor
    · rintro resolves target ⟨site, member, rfl⟩
      exact resolves site member
    · intro resolves site member
      exact resolves _ ⟨site, member, rfl⟩

/-- A new token is cyclic when one of its references is. -/
private theorem status_eq_cyclic_of_new {node : Node} (found : graph.node? path = some node)
    (new : path ∉ visited) :
    (resolution graph visited path via).1 = .cyclic ↔
      ∃ target, graph.Refers path target ∧
        (resolution graph (path :: visited) target none).1 = .cyclic := by
  simp only [Graph.refers_iff found]
  cases content : node.content with
  | concrete value => simp [resolution_of_concrete found new content]
  | «alias» reference =>
    rw [resolution_of_alias found new content, handOn_status, below, status_via none]
    simp
  | composite value first rest =>
    rw [resolution_of_composite found new content, assemble_status,
      Status.worst_eq_cyclic_iff, List.mem_map]
    simp only [Content.mem_targets_composite, below, status_via none]
    constructor
    · rintro ⟨site, member, loops⟩
      exact ⟨_, ⟨site, member, rfl⟩, loops⟩
    · rintro ⟨target, ⟨site, member, rfl⟩, loops⟩
      exact ⟨site, member, loops⟩

theorem status_eq_resolved_iff :
    (resolution graph visited path via).1 = .resolved ↔ graph.Grounded visited path := by
  rw [status_via none]
  induction visited, path using resolution_induction graph with
  | absent visited path absent =>
    rw [resolution_of_absent absent]
    exact iff_of_false (by simp) (Graph.not_grounded_of_absent absent)
  | seen visited path node found seen =>
    rw [resolution_of_visited found seen]
    exact iff_of_false (by simp) fun grounded => (grounded path .refl).2.1 seen
  | step visited path node found new ih =>
    have present : graph.has path = true := Graph.has_iff.mpr ⟨node, found⟩
    rw [status_eq_resolved_of_new found new, Graph.grounded_iff present new]
    exact forall₂_congr ih

theorem status_eq_cyclic_iff :
    (resolution graph visited path via).1 = .cyclic ↔ graph.Loops visited path := by
  rw [status_via none]
  induction visited, path using resolution_induction graph with
  | absent visited path absent =>
    rw [resolution_of_absent absent]
    exact iff_of_false (by simp) (Graph.not_loops_of_absent absent)
  | seen visited path node found seen =>
    rw [resolution_of_visited found seen]
    exact iff_of_true rfl ⟨path, .refl, .inl ⟨Graph.has_iff.mpr ⟨node, found⟩, seen⟩⟩
  | step visited path node found new ih =>
    have present : graph.has path = true := Graph.has_iff.mpr ⟨node, found⟩
    rw [status_eq_cyclic_of_new found new, Graph.loops_iff present new]
    exact exists_congr fun target => and_congr_right (ih target)

end DesignTokens
