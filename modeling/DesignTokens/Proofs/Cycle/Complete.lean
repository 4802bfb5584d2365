import DesignTokens.Proofs.Cycle.Search
import Mathlib.Computability.Primrec.List
import Mathlib.Data.List.Permutation
import Mathlib.Data.List.TakeWhile

/-! The search misses no cycle: each has a reference that closes a reported chain. A path is
left only when its references lead to paths left before or close a chain, so references
that close none cannot lead back to where they start. -/
namespace DesignTokens.Cycle

variable {graph : Graph}

/-- The reference is the last one of some chain found. -/
def Closes (found : List (List String)) (source target : String) : Prop :=
  ∃ way, way ++ [source, target] ∈ found

/-- Paths that were left, the last one first: what they refer to was left before, or the
reference closes a chain. -/
def Settled (graph : Graph) (found : List (List String)) : List String → Prop
  | [] => True
  | path :: left =>
    (∀ target, graph.Refers path target → target ∈ left ∨ Closes found path target) ∧
      Settled graph found left

/-- The open paths, with the paths that were left or stand above them: what an open path
refers to is still to be taken or among those, or the reference closes a chain. -/
def Pending (graph : Graph) (found : List (List String)) : List String → List Branch → Prop
  | _, [] => True
  | above, branch :: outer =>
    (∀ target, graph.Refers branch.path target →
      target ∈ branch.targets ∨ target ∈ above ∨ Closes found branch.path target) ∧
      Pending graph found (branch.path :: above) outer

theorem Closes.mono {found more : List (List String)} (known : found ⊆ more)
    {source target : String} (closes : Closes found source target) : Closes more source target :=
  closes.imp fun _ member => known member

theorem Settled.mono {found more : List (List String)} (known : found ⊆ more)
    {left : List String} (settled : Settled graph found left) : Settled graph more left := by
  induction left with
  | nil => trivial
  | cons path left ih =>
    exact ⟨fun target refers => (settled.1 target refers).imp_right (Closes.mono known),
      ih settled.2⟩

theorem Pending.mono {found more : List (List String)} (known : found ⊆ more)
    {above above' : List String} (entered : above ⊆ above') {stack : List Branch}
    (pending : Pending graph found above stack) : Pending graph more above' stack := by
  induction stack generalizing above above' with
  | nil => trivial
  | cons branch outer ih =>
    refine ⟨?_, ih (List.cons_subset_cons branch.path entered) pending.2⟩
    intro target refers
    exact (pending.1 target refers).imp_right fun taken =>
      taken.imp (fun member => entered member) (Closes.mono known)

/-- The innermost path refers to where its chain is closed. -/
theorem exists_closed_eq (path : String) (targets : List String) (outer : List Branch)
    {target : String} (member : target ∈ path :: outer.map Branch.path) :
    ∃ way, closed (⟨path, targets⟩ :: outer) target = way ++ [path, target] := by
  have here : target ∈ (outer.map Branch.path).reverse ++ [path] := by
    rw [List.mem_append, List.mem_reverse, List.mem_singleton]
    exact (List.mem_cons.mp member).symm
  unfold closed
  rw [List.map_cons, List.reverse_cons, List.dropWhile_append]
  split
  · next before =>
    have same : target = path := by
      rcases List.mem_append.mp here with below | same
      · have dropped := List.dropWhile_eq_nil_iff.mp (List.isEmpty_iff.mp before) target below
        simp at dropped
      · exact List.mem_singleton.mp same
    subst same
    exact ⟨[], by simp⟩
  · exact ⟨_, List.append_assoc _ [path] [target]⟩

/-- Every path entered was left or is open. -/
structure Covered (graph : Graph) (search : Search) (left : List String) : Prop where
  entered : ∀ path ∈ search.entered, path ∈ left ∨ path ∈ search.stack.map Branch.path
  settled : Settled graph search.found left
  pending : Pending graph search.found left search.stack

theorem Covered.enter {path : String} {search : Search} {left : List String}
    (entered : ∀ other ∈ search.entered, other ∈ left ∨ other ∈ search.stack.map Branch.path)
    (settled : Settled graph search.found left)
    (pending : Pending graph search.found (path :: left) search.stack) :
    Covered graph (enter graph path search) left where
  entered := by
    intro other known
    rcases List.mem_cons.mp known with rfl | before
    · exact .inr List.mem_cons_self
    · exact (entered other before).imp_right (List.mem_cons_of_mem path)
  settled := settled
  pending := ⟨fun _ refers => .inl refers, pending⟩

theorem Covered.leave {path : String} {outer : List Branch} {entered left : List String}
    {found : List (List String)} (h : Covered graph ⟨⟨path, []⟩ :: outer, entered, found⟩ left) :
    Covered graph ⟨outer, entered, found⟩ (path :: left) where
  entered := by
    intro other known
    rcases h.entered other known with before | isOpen
    · exact .inl (List.mem_cons_of_mem path before)
    · rcases List.mem_cons.mp isOpen with rfl | below
      · exact .inl List.mem_cons_self
      · exact .inr below
  settled := by
    refine ⟨?_, h.settled⟩
    intro target refers
    exact (h.pending.1 target refers).resolve_left List.not_mem_nil
  pending := h.pending.2

/-- Once the next reference of the innermost path leads to a path that was left, or to one
just entered, or closes a chain, it need not be kept. -/
theorem Pending.advance {path target : String} {targets : List String} {outer : List Branch}
    {left above : List String} {found more : List (List String)}
    (pending : Pending graph found left (⟨path, target :: targets⟩ :: outer))
    (known : found ⊆ more) (entered : left ⊆ above)
    (taken : target ∈ above ∨ Closes more path target) :
    Pending graph more above (⟨path, targets⟩ :: outer) := by
  have later := pending.mono known entered
  refine ⟨?_, later.2⟩
  intro goal refers
  rcases later.1 goal refers with next | before
  · rcases List.mem_cons.mp next with rfl | rest
    · exact .inr taken
    · exact .inl rest
  · exact .inr before

theorem Covered.move {search next : Search} (move : Move graph search next) {left : List String}
    (h : Covered graph search left) : ∃ left', Covered graph next left' := by
  cases move with
  | @leave path => exact ⟨path :: left, h.leave⟩
  | @close path target targets outer entered found member =>
    have known : found ⊆ found ++ [closed (⟨path, targets⟩ :: outer) target] :=
      List.subset_append_left _ _
    obtain ⟨way, closes⟩ := exists_closed_eq path targets outer member
    refine ⟨left, h.entered, h.settled.mono known, ?_⟩
    apply h.pending.advance known (List.Subset.refl left)
    refine .inr ⟨way, ?_⟩
    rw [← closes]
    exact List.mem_append_right found List.mem_cons_self
  | skip other known =>
    refine ⟨left, h.entered, h.settled, ?_⟩
    apply h.pending.advance (List.Subset.refl _) (List.Subset.refl left)
    exact .inl ((h.entered _ known).resolve_right other)
  | descend =>
    refine ⟨left, Covered.enter h.entered h.settled ?_⟩
    exact h.pending.advance (List.Subset.refl _) (List.subset_cons_self _ left)
      (.inl List.mem_cons_self)

theorem invariant_covered (graph : Graph) :
    Invariant graph fun search => ∃ left, Covered graph search left where
  empty := ⟨[], fun _ known => absurd known List.not_mem_nil, trivial, trivial⟩
  start := by
    rintro path entered found - ⟨left, h⟩
    exact ⟨left, Covered.enter h.entered h.settled trivial⟩
  move move := by
    rintro ⟨left, h⟩
    exact h.move move

/-- References that close no chain lead from a path that was left to one left before. -/
theorem Settled.mem_of_not_closes {found : List (List String)} {last : String}
    {left : List String} (settled : Settled graph found (last :: left)) {path target : String}
    (known : path ∈ last :: left) (refers : graph.Refers path target)
    (further : ¬ Closes found path target) : target ∈ left := by
  induction left generalizing last with
  | nil =>
    obtain rfl := List.mem_singleton.mp known
    exact (settled.1 target refers).resolve_right further
  | cons next left ih =>
    rcases List.mem_cons.mp known with rfl | before
    · exact (settled.1 target refers).resolve_right further
    · exact List.mem_cons_of_mem next (ih settled.2 before)

/-- So they lead back nowhere: a way back takes a reference that closes a chain. -/
theorem Settled.exists_closes {found : List (List String)} {left : List String}
    (settled : Settled graph found left) {taken : String → String → Prop}
    (refers : ∀ source target, taken source target → graph.Refers source target) {path : String}
    (known : path ∈ left) (back : Relation.TransGen taken path path) :
    ∃ source target, taken source target ∧ Closes found source target := by
  induction left with
  | nil => exact absurd known List.not_mem_nil
  | cons last left ih =>
    by_contra none
    have earlier {source target : String} (before : source ∈ last :: left)
        (step : taken source target) : target ∈ left :=
      settled.mem_of_not_closes before (refers source target step)
        fun closes => none ⟨source, target, step, closes⟩
    obtain ⟨next, first, rest⟩ := Relation.TransGen.head'_iff.mp back
    have start : next ∈ left := earlier known first
    have inside : path ∈ left := by
      clear ih known first back
      induction rest with
      | refl => exact start
      | tail _ step within => exact earlier (List.mem_cons_of_mem last within) step
    exact none (ih settled.2 inside)

/-- Among references that lead from a path back to it, one closes a reported chain. -/
theorem exists_mem_cycles_of_transGen {taken : String → String → Prop}
    (refers : ∀ source target, taken source target → graph.Refers source target) {path : String}
    (back : Relation.TransGen taken path path) :
    ∃ way source target, taken source target ∧ way ++ [source, target] ∈ graph.cycles := by
  obtain ⟨left, covered⟩ := (invariant_covered graph).search
  obtain ⟨next, first, -⟩ := Relation.TransGen.head'_iff.mp back
  have known : path ∈ left := by
    rcases covered.entered path (mem_entered_of_refers (refers path next first)) with
      before | isOpen
    · exact before
    · rw [stack_search] at isOpen
      exact absurd isOpen List.not_mem_nil
  obtain ⟨source, target, step, way, reported⟩ := covered.settled.exists_closes refers known back
  exact ⟨way, source, target, step, reported⟩

/-- A path on a cycle has a reported cycle in its component. -/
theorem exists_mem_cycles {path : String} (onCycle : graph.OnCycle path) :
    ∃ chain ∈ graph.cycles, ∀ member ∈ chain, graph.StronglyConnected path member := by
  obtain ⟨way, source, target, ⟨-, together⟩, reported⟩ :=
    exists_mem_cycles_of_transGen (fun _ _ step => step.1) onCycle.within_component
  refine ⟨_, reported, fun member within => together.trans ?_⟩
  have source_mem : source ∈ way ++ [source, target] := by simp
  exact (isCycle_of_mem_cycles reported).stronglyConnected source_mem within

theorem hasCycles_iff : graph.hasCycles = true ↔ ∃ path, graph.OnCycle path := by
  unfold Graph.hasCycles
  rw [Bool.not_eq_true', List.isEmpty_eq_false_iff_exists_mem]
  constructor
  · rintro ⟨chain, reported⟩
    have cycle := isCycle_of_mem_cycles reported
    obtain ⟨path, member⟩ := List.exists_mem_of_ne_nil chain cycle.ne_nil
    exact ⟨path, cycle.onCycle member⟩
  · rintro ⟨path, onCycle⟩
    obtain ⟨chain, reported, -⟩ := exists_mem_cycles onCycle
    exact ⟨chain, reported⟩

theorem cycles_ne_nil_iff : graph.cycles ≠ [] ↔ ∃ path, graph.OnCycle path := by
  rw [← hasCycles_iff, Graph.hasCycles, Bool.not_eq_true', List.isEmpty_eq_false_iff]

/-- Cycles are reported when there are any, and a token on one has a reported chain made
of tokens of its own component. -/
theorem cycles_meet_components (settings : Settings) (trees : List Value) :
    let graph := Graph.build settings trees
    (graph.hasCycles = true ↔ ∃ path, graph.OnCycle path) ∧
      ∀ path, graph.OnCycle path →
        ∃ chain ∈ graph.cycles, chain ≠ [] ∧
          ∀ member ∈ chain, graph.has member = true ∧ graph.StronglyConnected path member := by
  intro graph
  refine ⟨hasCycles_iff, ?_⟩
  intro path onCycle
  obtain ⟨chain, reported, together⟩ := exists_mem_cycles onCycle
  refine ⟨chain, reported, (isCycle_of_mem_cycles reported).ne_nil, ?_⟩
  intro member within
  have connected := together member within
  exact ⟨(onCycle.of_stronglyConnected connected).has, connected⟩

/-- Two ways from one token to another, one of them by way of a third. -/
def detour : Value :=
  let token (value : Value) := Value.object [("$type", .str "other"), ("$value", value)]
  .object [
    ("a", token (.list [.str "\x7bb\x7d", .str "\x7bc\x7d"])),
    ("b", token (.str "\x7ba\x7d")),
    ("c", token (.str "\x7bb\x7d"))]

theorem isCycle_detour : (Graph.build {} [detour]).IsCycle ["a", "c", "b", "a"] where
  closes := ⟨"a", ["c", "b"], rfl, by decide⟩
  follows := by
    have first : (Graph.build {} [detour]).referencesOf "a" = ["b", "c"] := by cbv
    have second : (Graph.build {} [detour]).referencesOf "b" = ["a"] := by cbv
    have third : (Graph.build {} [detour]).referencesOf "c" = ["b"] := by cbv
    simp [Graph.Refers, first, second, third]

theorem onCycle_detour : (Graph.build {} [detour]).OnCycle "c" :=
  isCycle_detour.onCycle (by decide)

theorem cycles_meet_detour :
    (Graph.build {} [detour]).OnCycle "c" ∧
      ∃ chain ∈ (Graph.build {} [detour]).cycles, chain ≠ [] ∧
        ∀ member ∈ chain, (Graph.build {} [detour]).has member = true ∧
          (Graph.build {} [detour]).StronglyConnected "c" member :=
  ⟨onCycle_detour, (cycles_meet_components {} [detour]).2 "c" onCycle_detour⟩

/-- A token on cycles only with references that are passed by is in no chain: here one leads
on to a token that has been left by then. -/
theorem detour_unreported :
    (Graph.build {} [detour]).OnCycle "c" ∧
      ∀ chain ∈ (Graph.build {} [detour]).cycles, "c" ∉ chain := by
  refine ⟨onCycle_detour, ?_⟩
  have reported : (Graph.build {} [detour]).cycles = [["a", "b", "a"]] := by cbv
  rw [reported]
  decide

/-- Every cycle shares a reference with a reported chain, the one that closes it. -/
theorem exists_shared_reference (settings : Settings) (trees : List Value) {cycle : List String}
    (isCycle : (Graph.build settings trees).IsCycle cycle) :
    ∃ way source target, [source, target] <:+: cycle ∧
      way ++ [source, target] ∈ (Graph.build settings trees).cycles := by
  obtain ⟨start, way, rfl, -⟩ := isCycle.closes
  have back := Graph.transGen_of_isChain (List.isChain_isInfix (start :: way ++ [start]))
  refine exists_mem_cycles_of_transGen ?_ back
  intro source target along
  rw [← List.isChain_pair (R := (Graph.build settings trees).Refers)]
  exact List.IsChain.infix isCycle.follows along

theorem exists_shared_reference_detour :
    (Graph.build {} [detour]).IsCycle ["a", "c", "b", "a"] ∧
      ∃ way source target, [source, target] <:+: ["a", "c", "b", "a"] ∧
        way ++ [source, target] ∈ (Graph.build {} [detour]).cycles :=
  ⟨isCycle_detour, exists_shared_reference {} [detour] isCycle_detour⟩

end DesignTokens.Cycle
