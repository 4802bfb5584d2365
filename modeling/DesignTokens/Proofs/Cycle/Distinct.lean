import DesignTokens.Proofs.Content
import DesignTokens.Proofs.Cycle.Complete
import Mathlib.Data.List.Rotate

/-! No cycle is reported twice, whichever of its paths it is told from. A chain lists its
paths in the order in which they were entered, so two tellings of one cycle are the same
chain, and the reference that closes a chain is taken only once. -/
namespace DesignTokens

namespace Cycle

variable {graph : Graph}

/-- Both chains go around the same cycle, each from a path of its own. -/
def SameCycle (chain other : List String) : Prop :=
  List.IsRotated chain.dropLast other.dropLast

theorem Closes.append {found : List (List String)} {chain : List String} {source target : String}
    (closes : Closes (found ++ [chain]) source target) :
    Closes found source target ∨ ∃ way, chain = way ++ [source, target] := by
  obtain ⟨way, member⟩ := closes
  rcases List.mem_append.mp member with before | new
  · exact .inl ⟨way, before⟩
  · exact .inr ⟨way, (List.mem_singleton.mp new).symm⟩

/-- Paths are entered once and references taken once. The open paths and every chain found
keep the order in which their paths were entered, the last one first. -/
structure Once (search : Search) : Prop where
  entered : search.entered.Nodup
  opened : (search.stack.map Branch.path).Sublist search.entered
  inOrder : ∀ chain ∈ search.found, chain.dropLast.reverse.Sublist search.entered
  targets : ∀ branch ∈ search.stack, branch.targets.Nodup
  untaken : ∀ branch ∈ search.stack, ∀ target ∈ branch.targets,
    ¬ Closes search.found branch.path target
  distinct : search.found.Nodup

theorem Once.source_entered {search : Search} (h : Once search) {source target : String}
    (closes : Closes search.found source target) : source ∈ search.entered := by
  obtain ⟨way, member⟩ := closes
  apply (h.inOrder _ member).subset
  simp [List.dropLast_append_of_ne_nil]

theorem Once.enter {path : String} {search : Search} (h : Once search)
    (new : path ∉ search.entered) : Once (enter graph path search) where
  entered := List.nodup_cons.mpr ⟨new, h.entered⟩
  opened := h.opened.cons_cons path
  inOrder chain member := (h.inOrder chain member).cons path
  targets := List.forall_mem_cons.mpr ⟨graph.nodup_referencesOf path, h.targets⟩
  untaken := by
    refine List.forall_mem_cons.mpr ⟨?_, h.untaken⟩
    intro target _ closes
    exact new (h.source_entered closes)
  distinct := h.distinct

theorem Once.leave {path : String} {outer : List Branch} {entered : List String}
    {found : List (List String)} (h : Once ⟨⟨path, []⟩ :: outer, entered, found⟩) :
    Once ⟨outer, entered, found⟩ where
  entered := h.entered
  opened := (List.sublist_cons_self path _).trans h.opened
  inOrder := h.inOrder
  targets := (List.forall_mem_cons.mp h.targets).2
  untaken := (List.forall_mem_cons.mp h.untaken).2
  distinct := h.distinct

section

variable {path target : String} {targets : List String} {outer : List Branch}
  {entered : List String} {found : List (List String)}
  (h : Once ⟨⟨path, target :: targets⟩ :: outer, entered, found⟩)

include h

/-- Taking the next reference of the innermost path. -/
theorem Once.advance : Once ⟨⟨path, targets⟩ :: outer, entered, found⟩ := by
  obtain ⟨rising, others⟩ := List.forall_mem_cons.mp h.targets
  obtain ⟨innermost, below⟩ := List.forall_mem_cons.mp h.untaken
  exact {
    entered := h.entered
    opened := h.opened
    inOrder := h.inOrder
    targets := List.forall_mem_cons.mpr ⟨(List.nodup_cons.mp rising).2, others⟩
    untaken := List.forall_mem_cons.mpr ⟨(List.forall_mem_cons.mp innermost).2, below⟩
    distinct := h.distinct }

theorem Once.not_closes : ¬ Closes found path target :=
  h.untaken _ List.mem_cons_self target List.mem_cons_self

/-- A closed chain is part of the open paths, read from the outermost one. -/
theorem Once.inOrder_closed (member : target ∈ path :: outer.map Branch.path) :
    (closed (⟨path, targets⟩ :: outer) target).dropLast.reverse.Sublist entered := by
  have opened : (List.map Branch.path (⟨path, targets⟩ :: outer)).Sublist entered := h.opened
  obtain ⟨inner, rest, split⟩ := List.append_of_mem member
  have order : (closed (⟨path, targets⟩ :: outer) target).dropLast.reverse = inner ++ [target] := by
    rw [closed_eq (opened.nodup h.entered) split, List.dropLast_concat, List.reverse_cons,
      List.reverse_reverse]
  have part : (inner ++ [target]).Sublist (inner ++ target :: rest) :=
    (List.singleton_sublist.mpr List.mem_cons_self).append_left inner
  rw [order]
  exact part.trans (split ▸ opened)

/-- The reference that closes the new chain is not to be taken any more, here because the
references of one path differ and elsewhere because the open paths do. -/
theorem Once.untaken_closed (member : target ∈ path :: outer.map Branch.path) :
    ∀ branch ∈ ⟨path, targets⟩ :: outer, ∀ other ∈ branch.targets,
      ¬ Closes (found ++ [closed (⟨path, targets⟩ :: outer) target]) branch.path other := by
  intro branch isOpen other next closes
  rcases closes.append with before | ⟨way, same⟩
  · exact h.advance.untaken branch isOpen other next before
  obtain ⟨front, ends⟩ := exists_closed_eq path targets outer member
  rw [ends] at same
  have last : [path, target] = [branch.path, other] := (List.append_inj' same rfl).2
  obtain ⟨source, rfl⟩ : path = branch.path ∧ target = other := by simpa using last
  have paths : (path :: outer.map Branch.path).Nodup := h.opened.nodup h.entered
  have rising : (target :: targets).Nodup := h.targets _ List.mem_cons_self
  rcases List.mem_cons.mp isOpen with rfl | below
  · exact (List.nodup_cons.mp rising).1 next
  · rw [source] at paths
    exact (List.nodup_cons.mp paths).1 (List.mem_map_of_mem below)

theorem Once.close (member : target ∈ path :: outer.map Branch.path) :
    Once ⟨⟨path, targets⟩ :: outer, entered,
      found ++ [closed (⟨path, targets⟩ :: outer) target]⟩ where
  entered := h.entered
  opened := h.opened
  inOrder := by
    intro chain known
    rcases List.mem_append.mp known with before | new
    · exact h.inOrder chain before
    · rw [List.mem_singleton.mp new]
      exact h.inOrder_closed member
  targets := h.advance.targets
  untaken := h.untaken_closed member
  distinct := by
    have new : closed (⟨path, targets⟩ :: outer) target ∉ found := by
      intro known
      obtain ⟨way, ends⟩ := exists_closed_eq path targets outer member
      rw [ends] at known
      exact h.not_closes ⟨way, known⟩
    simpa using h.distinct.concat new

end

theorem Once.move {search next : Search} (move : Move graph search next) (h : Once search) :
    Once next := by
  cases move with
  | leave => exact h.leave
  | close member => exact h.close member
  | skip => exact h.advance
  | descend other new => exact h.advance.enter new

theorem invariant_once (graph : Graph) : Invariant graph Once where
  empty := {
    entered := List.nodup_nil
    opened := .slnil
    inOrder := fun _ known => absurd known List.not_mem_nil
    targets := fun _ isOpen => absurd isOpen List.not_mem_nil
    untaken := fun _ isOpen => absurd isOpen List.not_mem_nil
    distinct := List.nodup_nil }
  start new h := h.enter new
  move := Once.move

/-- Chains around one cycle have the same paths, and these were entered in one order. -/
theorem eq_of_sameCycle {chain other : List String} (reported : chain ∈ graph.cycles)
    (another : other ∈ graph.cycles) (same : SameCycle chain other) : chain = other := by
  have once : Once (search graph) := (invariant_once graph).search
  apply (isCycle_of_mem_cycles reported).eq_of_dropLast_eq (isCycle_of_mem_cycles another)
  have perm : chain.dropLast.reverse.Perm other.dropLast.reverse := same.reverse.perm
  have equal := (once.entered.perm_iff_eq_of_sublist (once.inOrder chain reported)
    (once.inOrder other another)).mp perm
  exact List.reverse_injective equal

theorem pairwise_cycles (graph : Graph) :
    graph.cycles.Pairwise fun chain other => ¬ SameCycle chain other := by
  have distinct : graph.cycles.Nodup := (invariant_once graph).search.distinct
  refine List.Pairwise.imp_of_mem ?_ distinct
  intro chain other reported another different same
  exact different (eq_of_sameCycle reported another same)

/-- Every chain that is reported is a cycle among the tokens of the graph: it ends where it
starts, passes no other path twice, and goes along references. No two of them go around
the same cycle. -/
theorem cycles_genuine_once (settings : Settings) (trees : List Value) :
    let graph := Graph.build settings trees
    (∀ chain ∈ graph.cycles, 2 ≤ chain.length ∧
      (∃ start way, chain = start :: way ++ [start] ∧ (start :: way).Nodup) ∧
      (∀ path ∈ chain, graph.has path = true) ∧
      ∀ source target, [source, target] <:+: chain → target ∈ graph.referencesOf source) ∧
    graph.cycles.Pairwise fun chain other => ¬ SameCycle chain other := by
  intro graph
  refine ⟨?_, pairwise_cycles graph⟩
  intro chain reported
  have cycle : graph.IsCycle chain := isCycle_of_mem_cycles reported
  refine ⟨cycle.two_le_length, cycle.closes, ?_, ?_⟩
  · exact fun path member => (cycle.onCycle member).has
  · intro source target along
    have follows : [source, target].IsChain graph.Refers :=
      List.IsChain.infix cycle.follows along
    exact List.isChain_pair.mp follows

/-- A token that refers to itself and to another one, which refers back to it. -/
def knot : Value :=
  let token (value : Value) := Value.object [("$type", .str "other"), ("$value", value)]
  .object [
    ("a", token (.list [.str "\x7ba\x7d", .str "\x7bb\x7d"])),
    ("b", token (.str "\x7ba\x7d"))]

theorem cycles_genuine_knot :
    ["a", "b", "a"] ∈ (Graph.build {} [knot]).cycles ∧
      (∃ start way, ["a", "b", "a"] = start :: way ++ [start] ∧ (start :: way).Nodup) ∧
      "a" ∈ (Graph.build {} [knot]).referencesOf "b" ∧ ¬ SameCycle ["a", "a"] ["a", "b", "a"] := by
  have reported : (Graph.build {} [knot]).cycles = [["a", "a"], ["a", "b", "a"]] := by cbv
  have member : ["a", "b", "a"] ∈ (Graph.build {} [knot]).cycles := by
    rw [reported]
    decide
  obtain ⟨genuine, once⟩ := cycles_genuine_once {} [knot]
  obtain ⟨-, closes, -, follows⟩ := genuine _ member
  rw [reported] at once
  exact ⟨member, closes, follows "b" "a" ⟨["a"], [], rfl⟩, List.pairwise_pair.mp once⟩

end Cycle

end DesignTokens
