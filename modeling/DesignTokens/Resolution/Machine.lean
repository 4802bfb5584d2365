import DesignTokens.Resolution

/-! Resolution with an explicit stack and a cache of earlier outcomes. One step
follows one reference or hands one outcome to the composite that waits for it.
A potential that falls with every step bounds the run, whatever the cache holds:
following a reference visits a token not visited before, and a composite waits
for each of its sites once. -/
namespace DesignTokens

/-- A composite at the end of a chain of aliases, waiting for one of its sites. -/
structure Waiting where
  origin : String
  /-- The paths followed from the origin to the composite. -/
  chain : List String
  /-- The declared value with the sites written so far. -/
  value : Value
  worst : Status
  site : ReferenceSite
  rest : List ReferenceSite

inductive Task where
  /-- The chain leads from the origin up to the reference to follow next. -/
  | follow (origin : String) (chain : List String) (path : String) (via : Option Reference)
  | deliver (outcome : Resolution)

structure Machine where
  stack : List Waiting
  task : Task
  cache : Entries Resolution
  journal : Journal := []

namespace Machine

def start (cache : Entries Resolution) (path : String) : Machine :=
  { stack := [], task := .follow path [] path none, cache }

def visiting (stack : List Waiting) : List String := stack.flatMap Waiting.chain

/-- The end of a chain. A resolved chain resolves every token on it; otherwise its
origin keeps its declared value, which for a composite is what could be written
of it. -/
def settle (graph : Graph) (memoize : Bool) (machine : Machine) (origin : String)
    (chain : List String) (status : Status) (value : Value) (written : Option Value) : Machine :=
  if status = .resolved then
    let cache := if memoize then
        chain.foldl (fun cache path => cache.put path ⟨path, .resolved, value⟩) machine.cache
      else machine.cache
    { machine with cache, task := .deliver ⟨origin, .resolved, value⟩ }
  else
    let kept := match written, chain with
      | some written, [_] => written
      | _, _ => graph.declared origin
    { machine with task := .deliver ⟨origin, status, kept⟩ }

/-- The end of a chain at a cached outcome, a missing token or a visited one. An
outcome met at once is the outcome itself. -/
def stop (graph : Graph) (memoize : Bool) (machine : Machine) (origin : String)
    (chain : List String) (outcome : Resolution) : Machine :=
  if chain = [] then { machine with task := .deliver outcome }
  else settle graph memoize machine origin chain outcome.status outcome.value none

def followStep (graph : Graph) (memoize : Bool) (machine : Machine) (origin : String)
    (chain : List String) (path : String) (via : Option Reference) : Machine :=
  match machine.cache.lookup path with
  | some hit => stop graph memoize machine origin chain hit
  | none =>
    match graph.node? path with
    | none =>
      stop graph memoize { machine with journal := machine.journal ++ [.targetMissing path] }
        origin chain ⟨origin, .missing, missingValue via⟩
    | some node =>
      if path ∈ chain ++ visiting machine.stack then
        stop graph memoize { machine with journal := machine.journal ++ [.cycleEntered path] }
          origin chain ⟨origin, .cyclic, node.token.value⟩
      else
        match node.content with
        | .concrete value =>
          settle graph memoize machine origin (chain ++ [path]) .resolved value none
        | .alias reference =>
          { machine with
            task := .follow origin (chain ++ [path]) reference.path (some reference) }
        | .composite value first rest =>
          { machine with
            stack := ⟨origin, chain ++ [path], value, .resolved, first, rest⟩ :: machine.stack
            task := .follow first.reference.path [] first.reference.path (some first.reference) }

/-- A composite writes a resolved outcome at its site and leaves any other as it was
declared. -/
def Waiting.take (waiting : Waiting) (outcome : Resolution) : Waiting :=
  { waiting with
    value := if outcome.status = .resolved then
        splice waiting.value waiting.site.location outcome.value
      else waiting.value
    worst := waiting.worst.worse outcome.status }

/-- Behind its last site a composite ends its chain. -/
def deliverStep (graph : Graph) (memoize : Bool) (machine : Machine) (waiting : Waiting)
    (outer : List Waiting) (outcome : Resolution) : Machine :=
  let taken := Waiting.take waiting outcome
  match waiting.rest with
  | next :: rest =>
    { machine with
      stack := { taken with site := next, rest } :: outer
      task := .follow next.reference.path [] next.reference.path (some next.reference) }
  | [] =>
    settle graph memoize { machine with stack := outer } waiting.origin waiting.chain taken.worst
      taken.value (some taken.value)

/-- The next state, or nothing once an outcome is delivered to an empty stack. -/
def step? (graph : Graph) (memoize : Bool) (machine : Machine) : Option Machine :=
  match machine.task, machine.stack with
  | .follow origin chain path via, _ =>
    some (followStep graph memoize machine origin chain path via)
  | .deliver outcome, waiting :: outer =>
    some (deliverStep graph memoize machine waiting outer outcome)
  | .deliver _, [] => none

def mostSites (graph : Graph) : Nat :=
  graph.nodes.foldr (fun node most => max node.2.content.sites.length most) 0

/-- What following a reference can cost with that many tokens unvisited. -/
def cost (sites : Nat) : Nat → Nat
  | 0 => 2
  | unvisited + 1 => 2 + (sites + 1) * cost sites unvisited

def stackPotential (graph : Graph) : List Waiting → Nat
  | [] => 0
  | waiting :: outer =>
    1 + waiting.rest.length *
        cost (mostSites graph) (graph.unvisited (visiting (waiting :: outer))) +
      stackPotential graph outer

def potential (graph : Graph) (machine : Machine) : Nat :=
  stackPotential graph machine.stack +
    match machine.task with
    | .follow _ chain _ _ =>
      cost (mostSites graph) (graph.unvisited (chain ++ visiting machine.stack))
    | .deliver _ => 1

theorem two_le_cost (sites unvisited : Nat) : 2 ≤ cost sites unvisited := by
  cases unvisited <;> simp [cost]

private theorem cost_mono (sites : Nat) {m n : Nat} (h : m ≤ n) : cost sites m ≤ cost sites n := by
  induction n with
  | zero => simp [Nat.le_zero.mp h]
  | succ n ih =>
    rcases Nat.lt_or_ge m (n + 1) with below | above
    · have := ih (by omega)
      have grows : cost sites n ≤ (sites + 1) * cost sites n := Nat.le_mul_of_pos_left _ (by omega)
      simp only [cost]
      omega
    · exact Nat.le_of_eq (congrArg (cost sites) (Nat.le_antisymm h above))

theorem cost_lt (sites : Nat) {m n : Nat} (h : m < n) :
    2 + (sites + 1) * cost sites m ≤ cost sites n :=
  cost_mono sites h

theorem sites_le_mostSites {graph : Graph} {path : String} {node : Node}
    (found : graph.node? path = some node) : node.content.sites.length ≤ mostSites graph := by
  obtain ⟨before, after, same, other⟩ := List.lookup_eq_some_iff.mp found
  simp only [mostSites, same]
  clear same other
  induction before with
  | nil => simp only [List.nil_append, List.foldr_cons]; omega
  | cons first rest ih =>
    simp only [List.cons_append, List.foldr_cons]
    exact Nat.le_trans ih (Nat.le_max_right ..)

theorem stack_settle (graph : Graph) (memoize : Bool) (machine : Machine) (origin : String)
    (chain : List String) (status : Status) (value : Value) (written : Option Value) :
    (settle graph memoize machine origin chain status value written).stack = machine.stack ∧
      ∃ outcome, (settle graph memoize machine origin chain status value written).task =
        .deliver outcome := by
  unfold settle
  split <;> exact ⟨rfl, _, rfl⟩

theorem stack_stop (graph : Graph) (memoize : Bool) (machine : Machine) (origin : String)
    (chain : List String) (outcome : Resolution) :
    (stop graph memoize machine origin chain outcome).stack = machine.stack ∧
      ∃ outcome', (stop graph memoize machine origin chain outcome).task = .deliver outcome' := by
  unfold stop
  split
  · exact ⟨rfl, _, rfl⟩
  · exact stack_settle ..

theorem potential_of_deliver {graph : Graph} {machine : Machine} {stack : List Waiting}
    (same : machine.stack = stack) (delivers : ∃ outcome, machine.task = .deliver outcome) :
    potential graph machine = stackPotential graph stack + 1 := by
  obtain ⟨outcome, h⟩ := delivers
  simp [potential, same, h]

theorem potential_followStep (graph : Graph) (memoize : Bool) (machine : Machine)
    (origin : String) (chain : List String) (path : String) (via : Option Reference) :
    potential graph (followStep graph memoize machine origin chain path via) <
      stackPotential graph machine.stack +
        cost (mostSites graph) (graph.unvisited (chain ++ visiting machine.stack)) := by
  have base := two_le_cost (mostSites graph) (graph.unvisited (chain ++ visiting machine.stack))
  have ends (m : Machine) (same : m.stack = machine.stack)
      (delivers : ∃ outcome, m.task = .deliver outcome) :
      potential graph m < stackPotential graph machine.stack +
        cost (mostSites graph) (graph.unvisited (chain ++ visiting machine.stack)) := by
    rw [potential_of_deliver same delivers]
    omega
  unfold followStep
  split
  · exact ends _ (stack_stop ..).1 (stack_stop ..).2
  · split
    · exact ends _ (stack_stop ..).1 (stack_stop ..).2
    · next node found =>
      split
      · exact ends _ (stack_stop ..).1 (stack_stop ..).2
      · next new =>
        have fewer : graph.unvisited (chain ++ [path] ++ visiting machine.stack) <
            graph.unvisited (chain ++ visiting machine.stack) :=
          Graph.unvisited_lt (Graph.mem_paths_of_node? found) new
            (by intro p hp; simp only [List.mem_append] at hp ⊢; grind) (by simp)
        have cheaper := cost_lt (mostSites graph) fewer
        have positive := two_le_cost (mostSites graph)
          (graph.unvisited (chain ++ [path] ++ visiting machine.stack))
        split
        · exact ends _ (stack_settle ..).1 (stack_settle ..).2
        · simp only [potential]
          rw [Nat.add_mul, Nat.one_mul] at cheaper
          omega
        · next value first rest content =>
          have count := sites_le_mostSites found
          rw [content] at count
          simp only [Content.sites, List.length_cons] at count
          simp only [potential, stackPotential, visiting, List.flatMap_cons, List.nil_append]
          simp only [visiting] at cheaper positive fewer
          generalize cost (mostSites graph)
            (graph.unvisited (chain ++ [path] ++ machine.stack.flatMap Waiting.chain)) = c
            at cheaper positive ⊢
          have : rest.length * c + c ≤ (mostSites graph + 1) * c := by
            rw [← Nat.succ_mul]
            exact Nat.mul_le_mul_right c (by omega)
          omega

theorem potential_deliverStep (graph : Graph) (memoize : Bool) (machine : Machine)
    (waiting : Waiting) (outer : List Waiting) (outcome : Resolution) :
    potential graph (deliverStep graph memoize machine waiting outer outcome) <
      stackPotential graph (waiting :: outer) + 1 := by
  unfold deliverStep
  split
  · next more =>
    simp only [potential, stackPotential, visiting, List.flatMap_cons, more, List.length_cons,
      List.nil_append, Nat.add_mul, Nat.one_mul, Waiting.take]
    omega
  · rw [potential_of_deliver (stack_settle ..).1 (stack_settle ..).2]
    simp only [stackPotential]
    omega

theorem potential_step? {graph : Graph} {memoize : Bool} {machine next : Machine}
    (h : machine.step? graph memoize = some next) :
    potential graph next < potential graph machine := by
  obtain ⟨stack, task, cache, journal⟩ := machine
  unfold step? at h
  split at h
  · next origin chain path via same =>
    cases h
    dsimp only at same
    subst same
    exact potential_followStep ..
  · next outcome waiting outer sameTask sameStack =>
    cases h
    dsimp only at sameTask sameStack
    subst sameTask sameStack
    exact potential_deliverStep ..
  · simp at h

/-- The final state, in which an outcome has reached the empty stack. -/
def run (graph : Graph) (memoize : Bool) (machine : Machine) : Machine :=
  match h : machine.step? graph memoize with
  | some next =>
    have := potential_step? h
    run graph memoize next
  | none => machine
termination_by potential graph machine

theorem step?_run (graph : Graph) (memoize : Bool) (machine : Machine) :
    (machine.run graph memoize).step? graph memoize = none := by
  fun_induction run graph memoize machine with
  | case1 _ _ _ _ ih => exact ih
  | case2 _ h => exact h

/-- The outcome of a finished machine. -/
def outcome (machine : Machine) (path : String) : Resolution :=
  match machine.task with
  | .deliver outcome => outcome
  | .follow .. => ⟨path, .missing, .null⟩

end Machine

end DesignTokens
