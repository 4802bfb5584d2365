import DesignTokens.Graph

/-! The resolution of a token: the value its references lead to, or how they fail.
A token that cannot be resolved keeps its declared value, in which a composite
replaces the references that could be followed. -/
namespace DesignTokens

structure Resolution where
  path : String
  status : Status
  value : Value
deriving DecidableEq

namespace Resolution

def isResolved (r : Resolution) : Bool := r.status = .resolved

/-- Agreement as data: numbers of one size and objects in any order agree. -/
def agrees (r s : Resolution) : Bool :=
  r.path = s.path ∧ r.status = s.status ∧ r.value.agrees s.value

end Resolution

/-- What a reference to no token is worth: the text of the reference. -/
def missingValue (via : Option Reference) : Value := (via.map fun r => .str r.raw).getD .null

/-- Writes at a place that is known to exist. -/
def splice (value : Value) (location : Location) (item : Value) : Value :=
  match value.set location item with
  | .ok changed => changed
  | .error _ => value

namespace Graph

def declared (graph : Graph) (path : String) : Value :=
  ((graph.node? path).map (·.token.value)).getD .null

def unvisited (graph : Graph) (visited : List String) : Nat :=
  graph.paths.countP fun path => decide (path ∉ visited)

theorem mem_paths_of_node? {graph : Graph} {path : String} {node : Node}
    (h : graph.node? path = some node) : path ∈ graph.paths := by
  obtain ⟨before, after, same, _⟩ := List.lookup_eq_some_iff.mp h
  simp [paths, Entries.keys, same]

private theorem countP_lt_countP {p q : String → Bool} {list : List String} {x : String}
    (member : x ∈ list) (le : ∀ y, p y → q y) (hp : p x = false) (hq : q x = true) :
    list.countP p < list.countP q := by
  induction list with
  | nil => simp at member
  | cons first rest ih =>
    have shrink : rest.countP p ≤ rest.countP q :=
      List.countP_mono_left fun y _ => le y
    simp only [List.countP_cons]
    by_cases same : x = first
    · subst same
      simp only [hp, hq, Bool.false_eq_true, if_false, if_true]
      omega
    · have := ih (by simpa [same] using member)
      cases hf : p first with
      | true => simp only [le first hf, if_true]; omega
      | false =>
        simp only [Bool.false_eq_true, if_false]
        split <;> omega

theorem unvisited_lt {graph : Graph} {visited more : List String} {path : String}
    (present : path ∈ graph.paths) (new : path ∉ visited) (h : visited ⊆ more)
    (added : path ∈ more) : graph.unvisited more < graph.unvisited visited :=
  countP_lt_countP present (fun y hy => by simp_all; exact fun hv => hy (h hv))
    (by simp [added]) (by simp [new])

end Graph

/-- The rule of resolution, by recursion along references. -/
def resolution (graph : Graph) (visited : List String) (path : String) (via : Option Reference) :
    Status × Value :=
  match found : graph.node? path with
  | none => (.missing, missingValue via)
  | some node =>
    if seen : path ∈ visited then (.cyclic, node.token.value)
    else
      have := Graph.unvisited_lt (Graph.mem_paths_of_node? found) seen
        (List.subset_cons_self path visited) List.mem_cons_self
      match node.content with
      | .concrete value => (.resolved, value)
      | .alias reference =>
        match resolution graph (path :: visited) reference.path (some reference) with
        | (.resolved, value) => (.resolved, value)
        | (status, _) => (status, node.token.value)
      | .composite value first rest =>
        let outcomes := (first :: rest).map fun site =>
          (site.location, resolution graph (path :: visited) site.reference.path
            (some site.reference))
        (Status.worst (outcomes.map (·.2.1)),
          outcomes.foldl (fun value (location, status, item) =>
            if status = .resolved then splice value location item else value) value)
termination_by graph.unvisited visited

end DesignTokens
