import DesignTokens.Proofs.Graph.Reachability
import Mathlib.Data.List.Chain

/-! Chains of references written out, and the cycles among them. -/
namespace DesignTokens.Graph

variable {graph : Graph}

/-- The start of a chain leads to all of it. -/
theorem reaches_of_isChain {start : String} {chain : List String}
    (follows : (start :: chain).IsChain graph.Refers) :
    ∀ path ∈ start :: chain, graph.Reaches start path := by
  induction chain generalizing start with
  | nil =>
    intro path member
    rw [List.mem_singleton.mp member]
    exact .refl
  | cons next rest ih =>
    obtain ⟨refers, later⟩ := List.isChain_cons_cons.mp follows
    intro path member
    rcases List.mem_cons.mp member with rfl | member
    · exact .refl
    · exact .head refers (ih later path member)

/-- All of a chain leads to its end. -/
theorem reaches_last_of_isChain {chain : List String} {last : String}
    (follows : (chain ++ [last]).IsChain graph.Refers) :
    ∀ path ∈ chain ++ [last], graph.Reaches path last := by
  intro path member
  obtain ⟨before, after, same⟩ := List.append_of_mem member
  rw [same] at follows
  apply reaches_of_isChain follows.right_of_append
  have ends : last ∈ (before ++ path :: after).getLast? := by
    rw [← same, List.getLast?_concat]
    rfl
  rw [List.getLast?_append_cons] at ends
  exact List.mem_of_getLast? ends

/-- A chain that ends where it starts leads back, whatever its steps are. -/
theorem transGen_of_isChain {step : String → String → Prop} {start : String} {way : List String}
    (follows : (start :: way ++ [start]).IsChain step) : Relation.TransGen step start start := by
  cases way with
  | nil => exact .single (List.isChain_cons_cons.mp follows).1
  | cons next rest =>
    have rest_ne : next :: rest ++ [start] ≠ [] := List.cons_ne_nil _ _
    have later := List.relationReflTransGen_of_exists_isChain (next :: rest ++ [start])
      follows.tail rest_ne
    rw [List.getLast_append_singleton] at later
    exact .head' (List.isChain_cons_cons.mp follows).1 later

/-- A chain of references from a path back to itself, with no path twice on the way. -/
structure IsCycle (graph : Graph) (chain : List String) : Prop where
  closes : ∃ start way, chain = start :: way ++ [start] ∧ (start :: way).Nodup
  follows : chain.IsChain graph.Refers

namespace IsCycle

variable {chain : List String}

theorem ne_nil (h : graph.IsCycle chain) : chain ≠ [] := by
  obtain ⟨start, way, rfl, -⟩ := h.closes
  exact List.cons_ne_nil start _

theorem two_le_length (h : graph.IsCycle chain) : 2 ≤ chain.length := by
  obtain ⟨start, way, rfl, -⟩ := h.closes
  simp

/-- A cycle is known from the order of its paths. -/
theorem eq_of_dropLast_eq {other : List String} (h : graph.IsCycle chain)
    (another : graph.IsCycle other) (same : chain.dropLast = other.dropLast) : chain = other := by
  obtain ⟨start, way, rfl, -⟩ := h.closes
  obtain ⟨first, rest, rfl, -⟩ := another.closes
  rw [List.dropLast_concat, List.dropLast_concat] at same
  obtain ⟨rfl, rfl⟩ := List.cons_eq_cons.mp same
  rfl

/-- The paths of a cycle lead to one another. -/
theorem stronglyConnected (h : graph.IsCycle chain) {path other : String} (member : path ∈ chain)
    (another : other ∈ chain) : graph.StronglyConnected path other := by
  obtain ⟨start, way, rfl, -⟩ := h.closes
  have out := reaches_of_isChain h.follows
  have back := reaches_last_of_isChain h.follows
  exact ⟨(back path member).trans (out other another), (back other another).trans (out path member)⟩

theorem onCycle (h : graph.IsCycle chain) {path : String} (member : path ∈ chain) :
    graph.OnCycle path := by
  obtain ⟨start, way, rfl, -⟩ := h.closes
  have first : start ∈ start :: way ++ [start] := List.mem_cons_self
  exact Graph.OnCycle.of_stronglyConnected (transGen_of_isChain h.follows)
    (h.stronglyConnected first member)

end IsCycle

end DesignTokens.Graph
