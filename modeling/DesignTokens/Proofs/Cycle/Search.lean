import DesignTokens.Cycle
import DesignTokens.Proofs.Graph.Walk
import Mathlib.Data.List.Nodup

/-! The search for cycles, one step at a time: what each step keeps, the whole search
keeps. The open paths form a chain of references, so every chain that is closed is a
cycle. -/
namespace DesignTokens.Cycle

variable {graph : Graph}

/-- What a step does with the innermost open path: leave it, its references all taken, or
take its next reference, which closes a chain, was entered before, or is new. -/
inductive Move (graph : Graph) : Search → Search → Prop where
  | leave {path : String} {outer : List Branch} {entered : List String}
      {found : List (List String)} :
      Move graph ⟨⟨path, []⟩ :: outer, entered, found⟩ ⟨outer, entered, found⟩
  | close {path target : String} {targets : List String} {outer : List Branch}
      {entered : List String} {found : List (List String)}
      (member : target ∈ path :: outer.map Branch.path) :
      Move graph ⟨⟨path, target :: targets⟩ :: outer, entered, found⟩
        ⟨⟨path, targets⟩ :: outer, entered, found ++ [closed (⟨path, targets⟩ :: outer) target]⟩
  | skip {path target : String} {targets : List String} {outer : List Branch}
      {entered : List String} {found : List (List String)}
      (other : target ∉ path :: outer.map Branch.path) (known : target ∈ entered) :
      Move graph ⟨⟨path, target :: targets⟩ :: outer, entered, found⟩
        ⟨⟨path, targets⟩ :: outer, entered, found⟩
  | descend {path target : String} {targets : List String} {outer : List Branch}
      {entered : List String} {found : List (List String)}
      (other : target ∉ path :: outer.map Branch.path) (new : target ∉ entered) :
      Move graph ⟨⟨path, target :: targets⟩ :: outer, entered, found⟩
        (enter graph target ⟨⟨path, targets⟩ :: outer, entered, found⟩)

theorem Move.step? {search next : Search} (move : Move graph search next) :
    step? graph search = some next := by
  cases move with
  | leave => rfl
  | close member => exact if_pos member
  | skip other known => exact (if_neg other).trans (if_pos known)
  | descend other new => exact (if_neg other).trans (if_neg new)

/-- A search stands still only when no path is open. -/
theorem exists_move (search : Search) :
    search.stack = [] ∨ ∃ next, Move graph search next := by
  obtain ⟨stack, entered, found⟩ := search
  cases stack with
  | nil => exact .inl rfl
  | cons branch outer =>
    right
    obtain ⟨path, targets⟩ := branch
    cases targets with
    | nil => exact ⟨_, .leave⟩
    | cons target targets =>
      by_cases member : target ∈ path :: outer.map Branch.path
      · exact ⟨_, .close member⟩
      · by_cases known : target ∈ entered
        · exact ⟨_, .skip member known⟩
        · exact ⟨_, .descend member known⟩

theorem move_of_step? {search next : Search} (step : step? graph search = some next) :
    Move graph search next := by
  rcases exists_move search with done | ⟨other, move⟩
  · obtain ⟨stack, entered, found⟩ := search
    dsimp only at done
    subst done
    contradiction
  · obtain rfl : other = next := Option.some.inj (move.step?.symm.trans step)
    exact move

theorem stack_of_stuck {search : Search} (stuck : step? graph search = none) :
    search.stack = [] := by
  rcases exists_move search with done | ⟨next, move⟩
  · exact done
  · rw [move.step?] at stuck
    contradiction

theorem Move.run {search next : Search} (move : Move graph search next) :
    run graph search = run graph next := by
  rw [Cycle.run]
  split
  · next other same =>
    obtain rfl : next = other := Option.some.inj (move.step?.symm.trans same)
    rfl
  · next stuck =>
    rw [move.step?] at stuck
    contradiction

theorem run_of_done (entered : List String) (found : List (List String)) :
    run graph ⟨[], entered, found⟩ = ⟨[], entered, found⟩ := by
  rw [run]
  rfl

theorem stack_run (search : Search) : (run graph search).stack = [] := by
  fun_induction run graph search with
  | case1 _ _ _ _ ih => exact ih
  | case2 _ stuck => exact stack_of_stuck stuck

theorem run_keeps (holds : Search → Prop)
    (keeps : ∀ {search next}, Move graph search next → holds search → holds next)
    {search : Search} (kept : holds search) : holds (run graph search) := by
  fun_induction run graph search with
  | case1 search next step _ ih => exact ih (keeps (move_of_step? step) kept)
  | case2 => exact kept

/-- What the search starts with, and what every start and every step keep. -/
structure Invariant (graph : Graph) (holds : Search → Prop) : Prop where
  empty : holds ⟨[], [], []⟩
  start : ∀ {path entered found}, path ∉ entered → holds ⟨[], entered, found⟩ →
    holds (enter graph path ⟨[], entered, found⟩)
  move : ∀ {search next}, Move graph search next → holds search → holds next

namespace Invariant

variable {holds : Search → Prop} (h : Invariant graph holds)

include h

theorem searchFrom {search : Search} (kept : holds search) (done : search.stack = [])
    (path : String) :
    holds (searchFrom graph search path) ∧ (Cycle.searchFrom graph search path).stack = [] := by
  obtain ⟨stack, entered, found⟩ := search
  dsimp only at done
  subst done
  unfold Cycle.searchFrom
  split
  · exact ⟨kept, rfl⟩
  · next new => exact ⟨run_keeps holds h.move (h.start new kept), stack_run _⟩

theorem foldl_searchFrom (paths : List String) {search : Search} (kept : holds search)
    (done : search.stack = []) :
    holds (paths.foldl (Cycle.searchFrom graph) search) ∧
      (paths.foldl (Cycle.searchFrom graph) search).stack = [] := by
  induction paths generalizing search with
  | nil => exact ⟨kept, done⟩
  | cons path rest ih =>
    obtain ⟨kept, done⟩ := h.searchFrom kept done path
    exact ih kept done

theorem search : holds (search graph) := (h.foldl_searchFrom _ h.empty rfl).1

end Invariant

/-- The search leaves no path open. -/
theorem stack_search (graph : Graph) : (search graph).stack = [] := by
  have trivially : Invariant graph fun _ => True :=
    ⟨trivial, fun _ _ => trivial, fun _ _ => trivial⟩
  exact (trivially.foldl_searchFrom _ trivial rfl).2

theorem Move.mem_entered {search next : Search} (move : Move graph search next) {path : String}
    (known : path ∈ search.entered) : path ∈ next.entered := by
  cases move with
  | leave => exact known
  | close => exact known
  | skip => exact known
  | descend => exact List.mem_cons_of_mem _ known

theorem mem_entered_searchFrom (search : Search) {path : String} (start : String)
    (known : path = start ∨ path ∈ search.entered) :
    path ∈ (searchFrom graph search start).entered := by
  unfold searchFrom
  split
  · next before =>
    rcases known with rfl | known
    · exact before
    · exact known
  · exact run_keeps (path ∈ ·.entered) (fun move => move.mem_entered) (List.mem_cons.mpr known)

private theorem mem_entered_foldl_searchFrom (starts : List String) (search : Search)
    {path : String}
    (known : path ∈ starts ∨ path ∈ search.entered) :
    path ∈ (starts.foldl (searchFrom graph) search).entered := by
  induction starts generalizing search with
  | nil => exact known.resolve_left List.not_mem_nil
  | cons start rest ih =>
    apply ih
    rcases known with among | known
    · exact (List.mem_cons.mp among).symm.imp_right fun same =>
        mem_entered_searchFrom search start (.inl same)
    · exact .inr (mem_entered_searchFrom search start (.inr known))

/-- Every path that refers to another is entered. -/
theorem mem_entered_of_refers {path target : String} (refers : graph.Refers path target) :
    path ∈ (search graph).entered := by
  apply mem_entered_foldl_searchFrom
  left
  unfold Graph.Refers Graph.referencesOf at refers
  cases found : graph.edges.lookup path with
  | none =>
    rw [found] at refers
    exact absurd refers List.not_mem_nil
  | some targets => exact List.mem_map.mpr ⟨_, Entries.mem_of_lookup found, rfl⟩

/-- The open paths are a chain of references, each of them entered, and what has been
found are cycles. -/
structure Traced (graph : Graph) (search : Search) : Prop where
  follows : (search.stack.map Branch.path).IsChain fun inner outer => graph.Refers outer inner
  distinct : (search.stack.map Branch.path).Nodup
  entered : ∀ path ∈ search.stack.map Branch.path, path ∈ search.entered
  targets : ∀ branch ∈ search.stack, ∀ target ∈ branch.targets, graph.Refers branch.path target
  cycles : ∀ chain ∈ search.found, graph.IsCycle chain

/-- A chain is closed over the paths that stand above its first one. -/
theorem closed_eq {stack : List Branch} {inner outer : List String} {target : String}
    (distinct : (stack.map Branch.path).Nodup)
    (split : stack.map Branch.path = inner ++ target :: outer) :
    closed stack target = target :: inner.reverse ++ [target] := by
  have before : ∀ path ∈ outer.reverse, decide (path ≠ target) = true := by
    intro path member
    rw [decide_eq_true_iff]
    rintro rfl
    rw [split] at distinct
    exact (List.nodup_cons.mp distinct.of_append_right).1 (List.mem_reverse.mp member)
  unfold closed
  rw [split, List.reverse_append, List.reverse_cons, List.append_assoc,
    List.dropWhile_append_of_pos before]
  simp

theorem isCycle_closed {stack : List Branch} {path target : String}
    (follows : (stack.map Branch.path).IsChain fun inner outer => graph.Refers outer inner)
    (distinct : (stack.map Branch.path).Nodup) (top : path ∈ (stack.map Branch.path).head?)
    (member : target ∈ stack.map Branch.path) (refers : graph.Refers path target) :
    graph.IsCycle (closed stack target) := by
  obtain ⟨inner, outer, split⟩ := List.append_of_mem member
  have rejoined : inner ++ target :: outer = (inner ++ [target]) ++ outer := by simp
  have turned : target :: inner.reverse = (inner ++ [target]).reverse := by simp
  rw [closed_eq distinct split]
  rw [split, rejoined] at follows distinct top
  constructor
  · refine ⟨target, inner.reverse, rfl, ?_⟩
    rw [turned, List.nodup_reverse]
    exact distinct.of_append_left
  · rw [turned]
    apply List.IsChain.append
    · exact List.isChain_reverse.mpr follows.left_of_append
    · exact .singleton target
    · intro last ends start starts
      rw [List.getLast?_reverse] at ends
      have same : last = path := by
        rw [List.head?_append, Option.mem_def.mp ends] at top
        exact Option.some.inj top
      rw [same, ← Option.some.inj starts]
      exact refers

theorem Traced.enter {path : String} {search : Search} (h : Traced graph search)
    (new : path ∉ search.entered)
    (refers : ∀ outer ∈ (search.stack.map Branch.path).head?, graph.Refers outer path) :
    Traced graph (enter graph path search) where
  follows := h.follows.cons refers
  distinct := List.nodup_cons.mpr ⟨fun member => new (h.entered path member), h.distinct⟩
  entered := by
    intro other member
    rcases List.mem_cons.mp member with rfl | below
    · exact List.mem_cons_self
    · exact List.mem_cons_of_mem path (h.entered other below)
  targets := List.forall_mem_cons.mpr ⟨fun _ member => member, h.targets⟩
  cycles := h.cycles

theorem Traced.refers_next {path target : String} {targets : List String} {outer : List Branch}
    {entered : List String} {found : List (List String)}
    (h : Traced graph ⟨⟨path, target :: targets⟩ :: outer, entered, found⟩) :
    graph.Refers path target :=
  h.targets _ List.mem_cons_self _ List.mem_cons_self

/-- Taking the next reference of the innermost path. -/
theorem Traced.advance {path target : String} {targets : List String} {outer : List Branch}
    {entered : List String} {found : List (List String)}
    (h : Traced graph ⟨⟨path, target :: targets⟩ :: outer, entered, found⟩) :
    Traced graph ⟨⟨path, targets⟩ :: outer, entered, found⟩ := by
  obtain ⟨innermost, others⟩ := List.forall_mem_cons.mp h.targets
  exact {
    follows := h.follows
    distinct := h.distinct
    entered := h.entered
    targets := List.forall_mem_cons.mpr ⟨(List.forall_mem_cons.mp innermost).2, others⟩
    cycles := h.cycles }

theorem Traced.move {search next : Search} (move : Move graph search next)
    (h : Traced graph search) : Traced graph next := by
  cases move with
  | leave =>
    exact {
      follows := h.follows.tail
      distinct := (List.nodup_cons.mp h.distinct).2
      entered := (List.forall_mem_cons.mp h.entered).2
      targets := (List.forall_mem_cons.mp h.targets).2
      cycles := h.cycles }
  | close member =>
    refine { h.advance with cycles := ?_ }
    intro chain known
    rcases List.mem_append.mp known with before | new
    · exact h.cycles chain before
    · rw [List.mem_singleton.mp new]
      exact isCycle_closed h.advance.follows h.advance.distinct rfl member h.refers_next
  | skip => exact h.advance
  | descend other new =>
    apply h.advance.enter new
    intro outer top
    rw [← Option.some.inj top]
    exact h.refers_next

theorem invariant_traced (graph : Graph) : Invariant graph (Traced graph) where
  empty := {
    follows := .nil
    distinct := List.nodup_nil
    entered := fun _ member => absurd member List.not_mem_nil
    targets := fun _ member => absurd member List.not_mem_nil
    cycles := fun _ member => absurd member List.not_mem_nil }
  start new h := h.enter new fun _ none => absurd none (by simp)
  move := Traced.move

/-- Whatever is reported is a cycle. -/
theorem isCycle_of_mem_cycles {chain : List String} (reported : chain ∈ graph.cycles) :
    graph.IsCycle chain :=
  (invariant_traced graph).search.cycles chain reported

end DesignTokens.Cycle
