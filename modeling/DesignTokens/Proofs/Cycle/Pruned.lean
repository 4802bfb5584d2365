import DesignTokens.Proofs.Cycle.Search
import DesignTokens.Proofs.Graph.Pruned

/-! The search in a pruned graph. Seen through the paths that are kept, each step of the
search in the whole graph is the same step in the pruned one or no step at all, and a chain
is closed only among paths that are kept. So both find the same chains in the same order. -/
namespace DesignTokens.Cycle

def thinnedStack (keep : String → Bool) (stack : List Branch) : List Branch :=
  (stack.filter (keep ·.path)).map fun branch => ⟨branch.path, branch.targets.filter keep⟩

/-- What is seen of a search through the paths that are kept. -/
def thinned (keep : String → Bool) (search : Search) : Search where
  stack := thinnedStack keep search.stack
  entered := search.entered.filter keep
  found := search.found

section

variable {keep : String → Bool}

theorem paths_thinnedStack (stack : List Branch) :
    (thinnedStack keep stack).map Branch.path = (stack.map Branch.path).filter keep := by
  rw [thinnedStack, List.map_map, List.filter_map]
  rfl

theorem thinnedStack_of_keep {path : String} (kept : keep path = true) (targets : List String)
    (outer : List Branch) :
    thinnedStack keep (⟨path, targets⟩ :: outer) =
      ⟨path, targets.filter keep⟩ :: thinnedStack keep outer := by
  simp only [thinnedStack, List.filter_cons, kept, if_true, List.map_cons]

theorem thinnedStack_of_not_keep {path : String} (left : ¬ keep path = true)
    (targets : List String) (outer : List Branch) :
    thinnedStack keep (⟨path, targets⟩ :: outer) = thinnedStack keep outer := by
  simp only [thinnedStack, List.filter_cons, left, if_false, Bool.false_eq_true]

/-- Taking a reference to a path that is not kept goes unseen. -/
theorem thinnedStack_advance {target : String} (left : ¬ keep target = true) (path : String)
    (targets : List String) (outer : List Branch) :
    thinnedStack keep (⟨path, target :: targets⟩ :: outer) =
      thinnedStack keep (⟨path, targets⟩ :: outer) := by
  by_cases kept : keep path = true
  · rw [thinnedStack_of_keep kept, thinnedStack_of_keep kept, List.filter_cons_of_neg left]
  · rw [thinnedStack_of_not_keep kept, thinnedStack_of_not_keep kept]

theorem not_mem_thinnedStack {target path : String} {outer : List Branch}
    (other : target ∉ path :: outer.map Branch.path) :
    target ∉ path :: (thinnedStack keep outer).map Branch.path := by
  rw [paths_thinnedStack]
  exact fun member => other (List.mem_cons.mpr
    ((List.mem_cons.mp member).imp_right List.mem_of_mem_filter))

end

/-- Only the paths of a stack matter for where a chain is closed. -/
theorem closed_congr {stack other : List Branch}
    (same : stack.map Branch.path = other.map Branch.path) (target : String) :
    closed stack target = closed other target := by
  unfold closed
  rw [same]

variable {graph pruned : Graph} {keep : String → Bool} (h : graph.Prunes keep pruned)

/-- Every open path leads to the innermost one. -/
theorem Traced.reaches_innermost {path : String} {targets : List String} {outer : List Branch}
    {entered : List String} {found : List (List String)}
    (traced : Traced graph ⟨⟨path, targets⟩ :: outer, entered, found⟩) :
    ∀ other ∈ path :: outer.map Branch.path, graph.Reaches other path := by
  have follows := List.isChain_reverse.mpr traced.follows
  rw [List.map_cons, List.reverse_cons] at follows
  intro other member
  apply Graph.reaches_last_of_isChain follows
  rw [← List.reverse_cons, List.mem_reverse]
  exact member

include h

theorem thinned_enter_of_keep {path : String} (kept : keep path = true) (search : Search) :
    thinned keep (enter graph path search) = enter pruned path (thinned keep search) := by
  unfold thinned enter
  rw [thinnedStack_of_keep kept, List.filter_cons_of_pos kept, h.references]

omit h in
theorem thinned_enter_of_not_keep {path : String} (left : ¬ keep path = true) (search : Search) :
    thinned keep (enter graph path search) = thinned keep search := by
  unfold thinned enter
  rw [thinnedStack_of_not_keep left, List.filter_cons_of_neg left]

private theorem thinned_move {search next : Search} (move : Move graph search next)
    (traced : Traced graph search) :
    thinned keep next = thinned keep search ∨
      Move pruned (thinned keep search) (thinned keep next) := by
  cases move with
  | @leave path outer entered found =>
    by_cases kept : keep path = true
    · right
      unfold thinned
      rw [thinnedStack_of_keep kept]
      exact .leave
    · left
      unfold thinned
      rw [thinnedStack_of_not_keep kept]
  | @close path target targets outer entered found member =>
    right
    have back := traced.reaches_innermost target member
    have kept := h.onCycle path (Graph.onCycle_iff.mpr ⟨target, traced.refers_next, back⟩)
    have all : ∀ other ∈ path :: outer.map Branch.path, keep other = true := fun other isOpen =>
      h.keep_of_reaches (traced.reaches_innermost other isOpen) kept
    have same : (thinnedStack keep outer).map Branch.path = outer.map Branch.path := by
      rw [paths_thinnedStack, List.filter_eq_self]
      exact (List.forall_mem_cons.mp all).2
    have chain : closed (⟨path, targets⟩ :: outer) target =
        closed (⟨path, targets.filter keep⟩ :: thinnedStack keep outer) target := by
      apply closed_congr
      rw [List.map_cons, List.map_cons, same]
    unfold thinned
    rw [thinnedStack_of_keep kept, thinnedStack_of_keep kept,
      List.filter_cons_of_pos (all target member), chain]
    exact .close (same ▸ member)
  | @skip path target targets outer entered found other known =>
    by_cases kept : keep target = true
    · right
      have above := h.keep_of_refers traced.refers_next kept
      unfold thinned
      rw [thinnedStack_of_keep above, thinnedStack_of_keep above, List.filter_cons_of_pos kept]
      exact .skip (not_mem_thinnedStack other) (List.mem_filter.mpr ⟨known, kept⟩)
    · left
      unfold thinned
      rw [thinnedStack_advance kept]
  | @descend path target targets outer entered found other new =>
    by_cases kept : keep target = true
    · right
      have above := h.keep_of_refers traced.refers_next kept
      rw [thinned_enter_of_keep h kept]
      unfold thinned
      rw [thinnedStack_of_keep above, thinnedStack_of_keep above, List.filter_cons_of_pos kept]
      exact .descend (not_mem_thinnedStack other) fun known => new (List.mem_of_mem_filter known)
    · left
      rw [thinned_enter_of_not_keep kept]
      unfold thinned
      rw [thinnedStack_advance kept]

theorem thinned_run {search : Search} (traced : Traced graph search) :
    thinned keep (run graph search) = run pruned (thinned keep search) := by
  fun_induction run graph search with
  | case1 search next step _ ih =>
    have move := move_of_step? step
    rw [ih (traced.move move)]
    rcases thinned_move h move traced with same | move
    · rw [same]
    · exact move.run.symm
  | case2 search stuck =>
    obtain ⟨stack, entered, found⟩ := search
    obtain rfl : stack = [] := stack_of_stuck stuck
    exact (run_of_done _ _).symm

/-- A start that is not kept goes unseen, with all that is entered from it. -/
private theorem thinned_searchFrom {search : Search} (traced : Traced graph search)
    (done : search.stack = []) (path : String) :
    thinned keep (searchFrom graph search path) =
      if keep path then searchFrom pruned (thinned keep search) path else thinned keep search := by
  obtain ⟨stack, entered, found⟩ := search
  obtain rfl : stack = [] := done
  have start (new : path ∉ entered) : Traced graph (enter graph path ⟨[], entered, found⟩) :=
    (invariant_traced graph).start new traced
  by_cases kept : keep path = true
  · rw [if_pos kept]
    have seen : path ∈ (thinned keep ⟨[], entered, found⟩).entered ↔ path ∈ entered := by
      rw [thinned, List.mem_filter]
      exact and_iff_left kept
    unfold searchFrom
    by_cases known : path ∈ entered
    · rw [if_pos known, if_pos (seen.mpr known)]
    · rw [if_neg known, if_neg (mt seen.mp known), thinned_run h (start known),
        thinned_enter_of_keep h kept]
  · rw [if_neg kept]
    unfold searchFrom
    by_cases known : path ∈ entered
    · rw [if_pos known]
    · rw [if_neg known, thinned_run h (start known), thinned_enter_of_not_keep kept]
      exact run_of_done _ _

private theorem thinned_foldl_searchFrom (starts : List String) {search : Search}
    (traced : Traced graph search) (done : search.stack = []) :
    thinned keep (starts.foldl (searchFrom graph) search) =
      (starts.filter keep).foldl (searchFrom pruned) (thinned keep search) := by
  induction starts generalizing search with
  | nil => rfl
  | cons start rest ih =>
    obtain ⟨next, finished⟩ := (invariant_traced graph).searchFrom traced done start
    rw [List.foldl_cons, ih next finished, thinned_searchFrom h traced done, List.filter_cons]
    split
    · rw [List.foldl_cons]
    · rfl

/-- The same cycles are reported, in the same order. -/
theorem cycles_of_prunes : pruned.cycles = graph.cycles := by
  have thin := thinned_foldl_searchFrom h graph.edges.keys (invariant_traced graph).empty rfl
  rw [← h.keys_edges] at thin
  exact (congrArg Search.found thin).symm

end DesignTokens.Cycle
