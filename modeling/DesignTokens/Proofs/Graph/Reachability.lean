import DesignTokens.Graph
import DesignTokens.Proofs.Entries
import Mathlib.Logic.Relation

/-! References as a relation between paths, and where following them can lead: to
a path followed before, into a cycle, or to a path that is no token. -/
namespace DesignTokens

theorem mem_sortedPaths {paths : List String} {path : String} :
    path ∈ sortedPaths paths ↔ path ∈ paths := by
  rw [sortedPaths, List.mem_eraseDups, List.mem_mergeSort]

namespace Content

@[simp] theorem mem_targets_concrete {value : Value} {path : String} :
    path ∉ (concrete value).targets := List.not_mem_nil

@[simp] theorem mem_targets_alias {reference : Reference} {path : String} :
    path ∈ (Content.alias reference).targets ↔ path = reference.path := List.mem_singleton

@[simp] theorem mem_targets_composite {value : Value} {first : ReferenceSite}
    {rest : List ReferenceSite} {path : String} :
    path ∈ (composite value first rest).targets ↔
      ∃ site ∈ first :: rest, site.reference.path = path := by
  rw [targets, mem_sortedPaths, List.mem_map]

end Content

namespace Graph

variable {graph : Graph}

theorem has_iff {path : String} : graph.has path = true ↔ ∃ node, graph.node? path = some node :=
  Option.isSome_iff_exists

theorem has_iff_mem_paths {path : String} : graph.has path = true ↔ path ∈ graph.paths := by
  rw [has_iff]
  constructor
  · rintro ⟨node, found⟩
    exact Entries.mem_keys_of_lookup found
  · exact Entries.exists_lookup_of_mem_keys

theorem node?_of_has_eq_false {path : String} (unknown : graph.has path = false) :
    graph.node? path = none := by
  rw [← Option.isNone_iff_eq_none]
  exact Option.isSome_eq_false_iff.mp unknown

theorem lookup_tokens_eq (graph : Graph) (path : String) :
    graph.tokens.lookup path = (graph.node? path).map Node.token := by
  have mapped : graph.tokens = graph.nodes.mapItems fun _ node => node.token := rfl
  rw [mapped, Entries.lookup_mapItems]
  rfl

theorem lookup_contents_eq (graph : Graph) (path : String) :
    graph.contents.lookup path = (graph.node? path).map Node.content := by
  have mapped : graph.contents = graph.nodes.mapItems fun _ node => node.content := rfl
  rw [mapped, Entries.lookup_mapItems]
  rfl

/-- The table of edges holds what the content of each token refers to. -/
theorem referencesOf_eq (graph : Graph) (path : String) :
    graph.referencesOf path = ((graph.node? path).map (·.content.targets)).getD [] := by
  unfold referencesOf edges
  rw [Entries.lookup_filterMap graph.distinct]
  · unfold node?
    cases graph.nodes.lookup path with
    | none => rfl
    | some node =>
      rw [Option.bind_some, Option.map_some, Option.getD_some]
      dsimp only
      by_cases empty : node.content.targets = []
      · rw [if_pos empty, empty]
        rfl
      · rw [if_neg empty]
        rfl
  · intro entry kept made
    obtain ⟨source, node⟩ := entry
    dsimp only at made
    split at made
    · simp at made
    · exact (congrArg Prod.fst (Option.some.inj made)).symm

def Refers (graph : Graph) (source target : String) : Prop := target ∈ graph.referencesOf source

/-- In any number of steps, none among them. -/
def Reaches (graph : Graph) : String → String → Prop := Relation.ReflTransGen graph.Refers

/-- Some references lead from the path back to itself. -/
def OnCycle (graph : Graph) (path : String) : Prop := Relation.TransGen graph.Refers path path

theorem refers_iff {path target : String} {node : Node} (found : graph.node? path = some node) :
    graph.Refers path target ↔ target ∈ node.content.targets := by
  rw [Refers, referencesOf_eq, found]
  rfl

theorem not_refers_of_absent {path target : String} (absent : graph.node? path = none) :
    ¬ graph.Refers path target := by
  rw [Refers, referencesOf_eq, absent]
  exact List.not_mem_nil

theorem Refers.has {path target : String} (refers : graph.Refers path target) :
    graph.has path = true := by
  cases found : graph.node? path with
  | none => exact absurd refers (not_refers_of_absent found)
  | some node => exact has_iff.mpr ⟨node, found⟩

theorem reaches_iff {path goal : String} :
    graph.Reaches path goal ↔
      goal = path ∨ ∃ target, graph.Refers path target ∧ graph.Reaches target goal :=
  Relation.ReflTransGen.cases_head_iff.trans (or_congr_left eq_comm)

/-- Following references does not leave a set of paths that refer to one another only. -/
theorem Reaches.mem_of_closed {paths : List String} {path goal : String}
    (reached : graph.Reaches path goal)
    (closed : ∀ path ∈ paths, ∀ target, graph.Refers path target → target ∈ paths)
    (known : path ∈ paths) : goal ∈ paths := by
  induction reached with
  | refl => exact known
  | tail _ refers ih => exact closed _ ih _ refers

theorem onCycle_iff {path : String} :
    graph.OnCycle path ↔ ∃ target, graph.Refers path target ∧ graph.Reaches target path :=
  Relation.TransGen.head'_iff

theorem OnCycle.has {path : String} (onCycle : graph.OnCycle path) : graph.has path = true := by
  obtain ⟨target, refers, -⟩ := onCycle_iff.mp onCycle
  exact refers.has

/-- Each path leads to the other one. -/
def StronglyConnected (graph : Graph) (path other : String) : Prop :=
  graph.Reaches path other ∧ graph.Reaches other path

theorem StronglyConnected.refl (path : String) : graph.StronglyConnected path path :=
  ⟨.refl, .refl⟩

theorem StronglyConnected.trans {path between other : String}
    (first : graph.StronglyConnected path between)
    (second : graph.StronglyConnected between other) :
    graph.StronglyConnected path other := ⟨first.1.trans second.1, second.2.trans first.2⟩

/-- Being on a cycle is shared by a whole component. -/
theorem OnCycle.of_stronglyConnected {path other : String} (h : graph.OnCycle path)
    (together : graph.StronglyConnected path other) : graph.OnCycle other :=
  (Relation.TransGen.trans_right together.2 h).trans_left together.1

/-- The way along a cycle stays in its component. -/
theorem OnCycle.within_component {path : String} (h : graph.OnCycle path) :
    Relation.TransGen
      (fun source target => graph.Refers source target ∧ graph.StronglyConnected path source)
      path path := by
  have along {goal : String} (way : Relation.TransGen graph.Refers path goal)
      (back : graph.Reaches goal path) :
      Relation.TransGen
        (fun source target => graph.Refers source target ∧ graph.StronglyConnected path source)
        path goal := by
    induction way with
    | single refers => exact .single ⟨refers, .refl path⟩
    | tail way refers ih =>
      have back := Relation.ReflTransGen.head refers back
      exact (ih back).tail ⟨refers, way.to_reflTransGen, back⟩
  exact along h .refl

/-- Following references comes to a token visited before or to one on a cycle. -/
def Loops (graph : Graph) (visited : List String) (path : String) : Prop :=
  ∃ goal, graph.Reaches path goal ∧ (graph.has goal ∧ goal ∈ visited ∨ graph.OnCycle goal)

/-- Following references only ever comes to tokens that are new and on no cycle. -/
def Grounded (graph : Graph) (visited : List String) (path : String) : Prop :=
  ∀ goal, graph.Reaches path goal → graph.has goal ∧ goal ∉ visited ∧ ¬ graph.OnCycle goal

/-- A new token loops when one of its references does, the token itself now visited. -/
theorem loops_iff {visited : List String} {path : String} (present : graph.has path)
    (new : path ∉ visited) :
    graph.Loops visited path ↔
      ∃ target, graph.Refers path target ∧ graph.Loops (path :: visited) target := by
  constructor
  · rintro ⟨goal, reached, caught⟩
    rcases reaches_iff.mp reached with rfl | ⟨target, refers, reached⟩
    · have onCycle : graph.OnCycle goal := caught.resolve_left fun before => new before.2
      obtain ⟨target, refers, back⟩ := onCycle_iff.mp onCycle
      exact ⟨target, refers, goal, back, .inl ⟨present, List.mem_cons_self⟩⟩
    · exact ⟨target, refers, goal, reached,
        caught.imp_left fun before => ⟨before.1, List.mem_cons_of_mem path before.2⟩⟩
  · rintro ⟨target, refers, goal, reached, ⟨known, before⟩ | onCycle⟩
    · rcases List.mem_cons.mp before with rfl | before
      · exact ⟨goal, .refl, .inr (onCycle_iff.mpr ⟨target, refers, reached⟩)⟩
      · exact ⟨goal, .head refers reached, .inl ⟨known, before⟩⟩
    · exact ⟨goal, .head refers reached, .inr onCycle⟩

theorem grounded_iff {visited : List String} {path : String} (present : graph.has path)
    (new : path ∉ visited) :
    graph.Grounded visited path ↔
      ∀ target, graph.Refers path target → graph.Grounded (path :: visited) target := by
  constructor
  · intro grounded target refers goal reached
    obtain ⟨known, fresh, free⟩ := grounded goal (.head refers reached)
    refine ⟨known, ?_, free⟩
    rw [List.mem_cons, not_or]
    refine ⟨?_, fresh⟩
    rintro rfl
    exact free (onCycle_iff.mpr ⟨target, refers, reached⟩)
  · intro below goal reached
    rcases reaches_iff.mp reached with rfl | ⟨target, refers, reached⟩
    · refine ⟨present, new, ?_⟩
      intro onCycle
      obtain ⟨target, refers, back⟩ := onCycle_iff.mp onCycle
      exact (below target refers goal back).2.1 List.mem_cons_self
    · obtain ⟨known, fresh, free⟩ := below target refers goal reached
      exact ⟨known, fun before => fresh (List.mem_cons_of_mem path before), free⟩

/-- With nothing visited before, only cycles of the references are left. -/
theorem loops_nil_iff {path : String} :
    graph.Loops [] path ↔ ∃ goal, graph.Reaches path goal ∧ graph.OnCycle goal := by
  constructor
  · rintro ⟨goal, reached, ⟨-, before⟩ | onCycle⟩
    · exact absurd before List.not_mem_nil
    · exact ⟨goal, reached, onCycle⟩
  · rintro ⟨goal, reached, onCycle⟩
    exact ⟨goal, reached, .inr onCycle⟩

theorem grounded_nil_iff {path : String} :
    graph.Grounded [] path ↔
      (¬ ∃ goal, graph.Reaches path goal ∧ graph.OnCycle goal) ∧
        ¬ ∃ goal, graph.Reaches path goal ∧ graph.has goal = false := by
  constructor
  · intro grounded
    constructor
    · rintro ⟨goal, reached, onCycle⟩
      exact (grounded goal reached).2.2 onCycle
    · rintro ⟨goal, reached, absent⟩
      exact absurd (grounded goal reached).1 (by rw [absent]; exact Bool.false_ne_true)
  · rintro ⟨free, present⟩ goal reached
    refine ⟨?_, List.not_mem_nil, fun onCycle => free ⟨goal, reached, onCycle⟩⟩
    rw [← Bool.not_eq_false]
    exact fun absent => present ⟨goal, reached, absent⟩

theorem reaches_of_absent {path goal : String} (absent : graph.node? path = none)
    (reached : graph.Reaches path goal) : goal = path :=
  (reaches_iff.mp reached).resolve_right fun ⟨_, refers, _⟩ => not_refers_of_absent absent refers

theorem not_loops_of_absent {visited : List String} {path : String}
    (absent : graph.node? path = none) : ¬ graph.Loops visited path := by
  rintro ⟨goal, reached, ⟨known, -⟩ | onCycle⟩
  · rw [reaches_of_absent absent reached] at known
    obtain ⟨node, found⟩ := has_iff.mp known
    rw [absent] at found
    contradiction
  · rw [reaches_of_absent absent reached] at onCycle
    obtain ⟨target, refers, -⟩ := onCycle_iff.mp onCycle
    exact not_refers_of_absent absent refers

theorem not_grounded_of_absent {visited : List String} {path : String}
    (absent : graph.node? path = none) : ¬ graph.Grounded visited path := by
  intro grounded
  obtain ⟨node, found⟩ := has_iff.mp (grounded path .refl).1
  rw [absent] at found
  contradiction

/-- Some references lead from the path to the goal without touching a visited path. -/
def ReachesPast (graph : Graph) (visited : List String) (path goal : String) : Prop :=
  path ∉ visited ∧
    Relation.ReflTransGen (fun source target => graph.Refers source target ∧ target ∉ visited)
      path goal

theorem ReachesPast.reaches {visited : List String} {path goal : String}
    (reached : graph.ReachesPast visited path goal) : graph.Reaches path goal :=
  reached.2.lift id fun _ _ step => step.1

theorem not_reachesPast_of_visited {visited : List String} {path goal : String}
    (seen : path ∈ visited) : ¬ graph.ReachesPast visited path goal :=
  fun reached => reached.1 seen

theorem reachesPast_nil_iff {path goal : String} :
    graph.ReachesPast [] path goal ↔ graph.Reaches path goal := by
  refine ⟨ReachesPast.reaches, ?_⟩
  intro reached
  exact ⟨List.not_mem_nil, reached.lift id fun _ _ refers => ⟨refers, List.not_mem_nil⟩⟩

/-- A way need not come back to its first path, so it goes on past that path too. -/
theorem reachesPast_iff {visited : List String} {path goal : String} (new : path ∉ visited) :
    graph.ReachesPast visited path goal ↔
      goal = path ∨
        ∃ target, graph.Refers path target ∧ graph.ReachesPast (path :: visited) target goal := by
  constructor
  · rintro ⟨-, reached⟩
    induction reached with
    | refl => exact .inl rfl
    | @tail between goal _ step ih =>
      obtain ⟨refers, fresh⟩ := step
      by_cases same : goal = path
      · exact .inl same
      right
      have past : goal ∉ path :: visited := by
        rw [List.mem_cons, not_or]
        exact ⟨same, fresh⟩
      rcases ih with rfl | ⟨target, first, start, reached⟩
      · exact ⟨goal, refers, past, .refl⟩
      · exact ⟨target, first, start, reached.tail ⟨refers, past⟩⟩
  · rintro (rfl | ⟨target, refers, fresh, reached⟩)
    · exact ⟨new, .refl⟩
    · rw [List.mem_cons, not_or] at fresh
      refine ⟨new, .head ⟨refers, fresh.2⟩ (reached.lift id ?_)⟩
      intro source next step
      exact ⟨step.1, fun seen => step.2 (List.mem_cons_of_mem path seen)⟩

/-- When every visited path leads to the current one, coming back to a visited path is coming
into a cycle, so the visited paths change nothing. -/
theorem loops_of_chain {visited : List String} {path : String}
    (leads : ∀ before ∈ visited, Relation.TransGen graph.Refers before path) :
    graph.Loops visited path ↔ graph.Loops [] path := by
  constructor
  · rintro ⟨goal, reached, ⟨-, before⟩ | onCycle⟩
    · exact ⟨goal, reached, .inr ((leads goal before).trans_left reached)⟩
    · exact ⟨goal, reached, .inr onCycle⟩
  · rintro ⟨goal, reached, ⟨-, before⟩ | onCycle⟩
    · exact absurd before List.not_mem_nil
    · exact ⟨goal, reached, .inr onCycle⟩

theorem Grounded.without_visited {visited : List String} {path : String}
    (grounded : graph.Grounded visited path) : graph.Grounded [] path := by
  intro goal reached
  obtain ⟨known, -, free⟩ := grounded goal reached
  exact ⟨known, List.not_mem_nil, free⟩

theorem grounded_of_chain {visited : List String} {path : String}
    (leads : ∀ before ∈ visited, Relation.TransGen graph.Refers before path) :
    graph.Grounded visited path ↔ graph.Grounded [] path := by
  refine ⟨Grounded.without_visited, ?_⟩
  intro grounded goal reached
  obtain ⟨known, -, free⟩ := grounded goal reached
  exact ⟨known, fun before => free ((leads goal before).trans_left reached), free⟩

end Graph

end DesignTokens
