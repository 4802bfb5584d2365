import DesignTokens.Graph

/-! Reference cycles, found by a depth-first search that enters every path once
and takes the references of a path in rising order. A cycle is the chain from
its first path back to that path. -/
namespace DesignTokens

namespace Cycle

/-- A path on the current chain, with the references still to be taken. -/
structure Branch where
  path : String
  targets : List String

structure Search where
  /-- The current chain, its last path first. -/
  stack : List Branch
  entered : List String
  found : List (List String)

/-- The chain from where the target stands on the stack up to its top, and the
target again. -/
def closed (stack : List Branch) (target : String) : List String :=
  ((stack.map Branch.path).reverse.dropWhile (· ≠ target)) ++ [target]

def enter (graph : Graph) (path : String) (search : Search) : Search :=
  { search with
    stack := ⟨path, graph.referencesOf path⟩ :: search.stack
    entered := path :: search.entered }

def step? (graph : Graph) (search : Search) : Option Search :=
  match search.stack with
  | [] => none
  | ⟨_, []⟩ :: outer => some { search with stack := outer }
  | ⟨path, target :: targets⟩ :: outer =>
    let stack := ⟨path, targets⟩ :: outer
    if target ∈ stack.map Branch.path then
      some { search with stack, found := search.found ++ [closed stack target] }
    else if target ∈ search.entered then some { search with stack }
    else some (enter graph target { search with stack })

def branchPotential : List Branch → Nat
  | [] => 0
  | branch :: outer => 1 + 2 * branch.targets.length + branchPotential outer

/-- What entering the referring tokens not yet entered can cost. -/
def unentered (edges : Entries (List String)) (entered : List String) : Nat :=
  match edges with
  | [] => 0
  | edge :: rest =>
    (if edge.1 ∈ entered then 0 else 1 + 2 * edge.2.length) + unentered rest entered

def potential (graph : Graph) (search : Search) : Nat :=
  branchPotential search.stack + unentered graph.edges search.entered

private theorem unentered_cons_le (edges : Entries (List String)) (path : String)
    (entered : List String) : unentered edges (path :: entered) ≤ unentered edges entered := by
  induction edges with
  | nil => simp [unentered]
  | cons edge rest ih =>
    simp only [unentered, List.mem_cons] at ih ⊢
    split <;> split <;> first | omega | (exfalso; simp_all)

private theorem unentered_cons (edges : Entries (List String)) {path : String}
    {entered : List String} (new : path ∉ entered) :
    unentered edges (path :: entered) + 2 * ((edges.lookup path).getD []).length ≤
      unentered edges entered := by
  induction edges with
  | nil => simp [unentered]
  | cons edge rest ih =>
    have shrink := unentered_cons_le rest path entered
    obtain ⟨source, targets⟩ := edge
    simp only [unentered, List.mem_cons] at ih shrink ⊢
    by_cases same : source = path
    · subst same
      simp [new]
      omega
    · have different : (path == source) = false := beq_eq_false_iff_ne.mpr (Ne.symm same)
      simp only [List.lookup_cons, different, same, false_or]
      split <;> omega

theorem potential_step? {graph : Graph} {search next : Search}
    (h : step? graph search = some next) : potential graph next < potential graph search := by
  obtain ⟨stack, entered, found⟩ := search
  unfold step? at h
  split at h
  · simp at h
  · next same =>
    cases h
    dsimp only at same
    subst same
    simp [potential, branchPotential]
  · next path target targets outer same =>
    dsimp only at same h
    subst same
    split at h
    · cases h
      simp [potential, branchPotential]
    · split at h
      · cases h
        simp [potential, branchPotential]
      · next new =>
        cases h
        have := unentered_cons graph.edges new
        simp only [enter, potential, branchPotential, List.length_cons, Graph.referencesOf]
        omega

def run (graph : Graph) (search : Search) : Search :=
  match h : step? graph search with
  | some next =>
    have := potential_step? h
    run graph next
  | none => search
termination_by potential graph search

def searchFrom (graph : Graph) (search : Search) (path : String) : Search :=
  if path ∈ search.entered then search else run graph (enter graph path search)

def search (graph : Graph) : Search :=
  graph.edges.keys.foldl (searchFrom graph) ⟨[], [], []⟩

end Cycle

namespace Graph

def cycles (graph : Graph) : List (List String) := (Cycle.search graph).found

def hasCycles (graph : Graph) : Bool := !graph.cycles.isEmpty

def cycleJournal (graph : Graph) : Journal := graph.cycles.map .cycleFound

end Graph

structure CycleWarning where
  chain : List String
  message : String
deriving DecidableEq

def CycleWarning.ofChain (chain : List String) : CycleWarning :=
  ⟨chain, "Circular reference: " ++ cycleText chain⟩

end DesignTokens
