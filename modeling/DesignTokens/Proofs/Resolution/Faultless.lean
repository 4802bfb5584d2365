import DesignTokens.Proofs.Resolution.Built
import DesignTokens.Proofs.Resolution.Simulation
import DesignTokens.Proofs.Value.Sites

/-! No step of the machine goes wrong, whatever the cache holds. What a step looks up is
there, the site a composite waits for is one of its sites, and every outcome can be written
where it belongs, because writing at one site leaves the places of the others as they are. -/
namespace DesignTokens

/-- Every composite of the graph can be written at all its sites. -/
def Graph.IsWritable (graph : Graph) : Prop :=
  ∀ {path node value first rest}, graph.node? path = some node →
    node.content = .composite value first rest → value.Writable (first :: rest)

theorem Graph.isWritable_build (settings : Settings) {trees : List Value}
    (h : ∀ tree ∈ trees, tree.isWellKeyed = true) : (build settings trees).IsWritable := by
  intro path node value first rest found content
  obtain ⟨rfl, sites, -⟩ := declared_of_composite found content
  rw [sites]
  exact Value.writable_sites (isWellKeyed_build h found)

namespace Machine

variable {graph : Graph} {memoize : Bool}

/-- A chain of tokens that starts at the origin, unless it is empty. -/
structure Chained (graph : Graph) (origin : String) (chain : List String) : Prop where
  known : ∀ path ∈ chain, graph.has path = true
  starts : ∀ path ∈ chain.head?, path = origin

/-- A composite that waits ends the chain that led to it, is past the sites before the one it
waits for, and can be written at the others. -/
structure Waits (graph : Graph) (waiting : Waiting) : Prop where
  chained : Chained graph waiting.origin waiting.chain
  ends : ∃ path node, waiting.chain.getLast? = some path ∧ graph.node? path = some node ∧
    ∃ passed, node.content.sites = passed ++ waiting.site :: waiting.rest
  writable : waiting.value.Writable (waiting.site :: waiting.rest)

/-- The chain that is followed can take up its next path. -/
def Proceeds (graph : Graph) : Task → Prop
  | .follow origin chain path _ =>
    Chained graph origin chain ∧ (chain = [] → path = origin)
  | .deliver _ => True

structure Steady (graph : Graph) (machine : Machine) : Prop where
  waits : ∀ waiting ∈ machine.stack, Waits graph waiting
  proceeds : Proceeds graph machine.task

theorem chained_nil (graph : Graph) (origin : String) : Chained graph origin [] where
  known _ member := absurd member List.not_mem_nil
  starts _ member := by simp at member

theorem Chained.append {origin path : String} {chain : List String}
    (chained : Chained graph origin chain) (known : graph.has path = true)
    (starts : chain = [] → path = origin) : Chained graph origin (chain ++ [path]) where
  known other member := by
    rcases List.mem_append.mp member with before | last
    · exact chained.known other before
    · rwa [List.mem_singleton.mp last]
  starts other member := by
    cases chain with
    | nil =>
      obtain rfl := Option.some.inj member
      exact starts rfl
    | cons first rest => exact chained.starts other member

theorem steady_start (graph : Graph) (cache : Entries Resolution) (path : String) :
    Steady graph (start cache path) where
  waits _ member := absurd member List.not_mem_nil
  proceeds := ⟨chained_nil graph path, fun _ => rfl⟩

theorem steady_of_deliver {machine : Machine} {stack : List Waiting}
    (waits : ∀ waiting ∈ stack, Waits graph waiting) (same : machine.stack = stack)
    (delivers : ∃ outcome, machine.task = .deliver outcome) : Steady graph machine where
  waits := same ▸ waits
  proceeds := by
    obtain ⟨outcome, task⟩ := delivers
    rw [task]
    trivial

section

variable {machine : Machine} {origin path : String} {chain : List String}
  {via : Option Reference}

theorem Steady.followStep (writable : graph.IsWritable)
    (waits : ∀ waiting ∈ machine.stack, Waits graph waiting)
    (chained : Chained graph origin chain) (starts : chain = [] → path = origin) :
    Steady graph (Machine.followStep graph memoize machine origin chain path via) := by
  unfold Machine.followStep
  split
  · exact steady_of_deliver waits (stack_stop ..).1 (stack_stop ..).2
  split
  · exact steady_of_deliver waits (stack_stop ..).1 (stack_stop ..).2
  next node found =>
  have longer : Chained graph origin (chain ++ [path]) :=
    chained.append (Graph.has_iff.mpr ⟨node, found⟩) starts
  split
  · exact steady_of_deliver waits (stack_stop ..).1 (stack_stop ..).2
  split
  · exact steady_of_deliver waits (stack_settle ..).1 (stack_settle ..).2
  · exact ⟨waits, longer, fun empty => absurd empty (by simp)⟩
  · next value first rest content =>
    refine ⟨List.forall_mem_cons.mpr ⟨⟨longer, ?_, writable found content⟩, waits⟩,
      chained_nil graph _, fun _ => rfl⟩
    exact ⟨path, node, by simp, found, [], by rw [content]; rfl⟩

/-- Whatever the outcome is, the composite can be written at its other sites afterwards. -/
theorem Waits.take {waiting : Waiting} (waits : Waits graph waiting) (outcome : Resolution) :
    (Waiting.take waiting outcome).value.Writable waiting.rest := by
  unfold Waiting.take
  dsimp only
  split
  · obtain ⟨changed, written, writable⟩ := waits.writable.exists_set outcome.value
    unfold splice
    rw [written]
    exact writable
  · exact waits.writable.rest

theorem Steady.deliverStep {waiting : Waiting} {outer : List Waiting}
    (waits : ∀ waiting' ∈ waiting :: outer, Waits graph waiting') (outcome : Resolution) :
    Steady graph (Machine.deliverStep graph memoize machine waiting outer outcome) := by
  obtain ⟨here, others⟩ := List.forall_mem_cons.mp waits
  have writable := here.take outcome
  unfold Machine.deliverStep
  dsimp only
  split
  · next next rest more =>
    rw [more] at writable
    refine ⟨List.forall_mem_cons.mpr ⟨⟨here.chained, ?_, writable⟩, others⟩,
      chained_nil graph _, fun _ => rfl⟩
    obtain ⟨path, node, last, found, passed, sites⟩ := here.ends
    refine ⟨path, node, last, found, passed ++ [waiting.site], ?_⟩
    rw [sites, more, List.append_assoc]
    rfl
  · exact steady_of_deliver others (stack_settle ..).1 (stack_settle ..).2

end

theorem Steady.step (writable : graph.IsWritable) {machine next : Machine}
    (steady : Steady graph machine) (step : machine.step? graph memoize = some next) :
    Steady graph next := by
  obtain ⟨waits, proceeds⟩ := steady
  unfold step? at step
  split at step
  · next origin chain path via task =>
    obtain rfl := Option.some.inj step
    rw [task] at proceeds
    exact .followStep writable waits proceeds.1 proceeds.2
  · next outcome waiting outer _ stack =>
    obtain rfl := Option.some.inj step
    rw [stack] at waits
    exact .deliverStep waits outcome
  · contradiction

theorem Steady.steps (writable : graph.IsWritable) {machine last : Machine}
    (steady : Steady graph machine) (steps : Steps graph memoize machine last) :
    Steady graph last := by
  induction steps with
  | refl => exact steady
  | tail _ step ih => exact ih.step writable step

theorem steps_run (graph : Graph) (memoize : Bool) (machine : Machine) :
    Steps graph memoize machine (machine.run graph memoize) := by
  fun_induction run graph memoize machine with
  | case1 machine next step _ ih => exact .head step ih
  | case2 machine stuck => exact .refl

/-- A machine is stuck only when an outcome has come to the empty stack. -/
theorem delivered_of_stuck {machine : Machine} (stuck : machine.step? graph memoize = none) :
    machine.stack = [] ∧ ∃ outcome, machine.task = .deliver outcome := by
  unfold step? at stuck
  split at stuck
  · contradiction
  · contradiction
  · next outcome task stack => exact ⟨stack, outcome, task⟩

def HasToken (graph : Graph) (path : String) : Prop :=
  ∃ token content, graph.tokens.lookup path = some token ∧
    graph.contents.lookup path = some content

/-- Nothing is missing of what the next steps look up, index and write. -/
structure Faultless (graph : Graph) (machine : Machine) : Prop where
  /-- A composite waits for the site at some position among its sites, with those behind it
  still to come. -/
  in_range : ∀ waiting ∈ machine.stack, ∃ path content position,
    waiting.chain.getLast? = some path ∧ graph.contents.lookup path = some content ∧
      content.sites[position]? = some waiting.site ∧
      content.sites.drop (position + 1) = waiting.rest
  /-- Whatever is delivered can be written there. -/
  writes : ∀ waiting ∈ machine.stack, ∀ item,
    ∃ changed, waiting.value.set waiting.site.location item = .ok changed
  /-- The chain of a composite and its origin are tokens with contents. -/
  waiting_known : ∀ waiting ∈ machine.stack,
    ∀ path ∈ waiting.origin :: waiting.chain, HasToken graph path
  /-- So are those of the chain that is followed, once it has a first path. -/
  following_known : ∀ origin chain path via, machine.task = .follow origin chain path via →
    chain ≠ [] → ∀ path ∈ origin :: chain, HasToken graph path

theorem lookup_contents {path : String} {node : Node} (found : graph.node? path = some node) :
    graph.contents.lookup path = some node.content := by
  rw [Graph.lookup_contents_eq, found]
  rfl

theorem lookup_tokens {path : String} {node : Node} (found : graph.node? path = some node) :
    graph.tokens.lookup path = some node.token := by
  rw [Graph.lookup_tokens_eq, found]
  rfl

private theorem hasToken_of_has {path : String} (known : graph.has path = true) :
    HasToken graph path := by
  obtain ⟨node, found⟩ := Graph.has_iff.mp known
  exact ⟨_, _, lookup_tokens found, lookup_contents found⟩

theorem Chained.hasToken {origin : String} {chain : List String}
    (chained : Chained graph origin chain) (nonempty : chain ≠ []) :
    ∀ path ∈ origin :: chain, HasToken graph path := by
  have known : ∀ path ∈ chain, HasToken graph path :=
    fun path member => hasToken_of_has (chained.known path member)
  refine List.forall_mem_cons.mpr ⟨?_, known⟩
  obtain ⟨first, rest, rfl⟩ := List.exists_cons_of_ne_nil nonempty
  obtain rfl : first = origin := chained.starts first rfl
  exact known first List.mem_cons_self

theorem Steady.faultless {machine : Machine} (steady : Steady graph machine) :
    Faultless graph machine where
  in_range waiting member := by
    obtain ⟨path, node, last, found, passed, sites⟩ := (steady.waits waiting member).ends
    refine ⟨path, node.content, passed.length, last, lookup_contents found, ?_, ?_⟩
    · rw [sites, List.getElem?_append_right (Nat.le_refl _), Nat.sub_self]
      rfl
    · rw [sites, List.drop_append]
      simp
  writes waiting member item := by
    obtain ⟨changed, written, -⟩ := (steady.waits waiting member).writable.exists_set item
    exact ⟨changed, written⟩
  waiting_known waiting member := by
    have waits := steady.waits waiting member
    obtain ⟨path, -, last, -⟩ := waits.ends
    exact waits.chained.hasToken fun empty => by simp [empty] at last
  following_known origin chain path via task nonempty := by
    have proceeds := steady.proceeds
    rw [task] at proceeds
    exact proceeds.1.hasToken nonempty

/-- From any cache whatsoever a request comes to an outcome on the empty stack, and no machine
on the way lacks what its next steps need. -/
theorem run_faultless (settings : Settings) (trees : List Value)
    (h : ∀ tree ∈ trees, tree.isWellKeyed = true) (memoize : Bool) (cache : Entries Resolution)
    (path : String) :
    let graph := Graph.build settings trees
    (∃ outcome cache' journal,
      Steps graph memoize (start cache path) ⟨[], .deliver outcome, cache', journal⟩ ∧
      (start cache path).run graph memoize = ⟨[], .deliver outcome, cache', journal⟩) ∧
    ∀ machine, Steps graph memoize (start cache path) machine → machine.Faultless graph := by
  intro graph
  constructor
  · have steps := steps_run graph memoize (start cache path)
    obtain ⟨empty, outcome, task⟩ := delivered_of_stuck (step?_run graph memoize (start cache path))
    generalize (start cache path).run graph memoize = last at steps empty task
    obtain ⟨stack, task', cache', journal⟩ := last
    dsimp only at empty task
    subst empty task
    exact ⟨outcome, cache', journal, steps, rfl⟩
  · intro machine reached
    exact ((steady_start graph cache path).steps (Graph.isWritable_build settings h)
      reached).faultless

/-- A token with two references, one of them in a list, and one that refers back to it. -/
def nested : Value :=
  let token (value : Value) := Value.object [("$type", .str "other"), ("$value", value)]
  .object [
    ("frame", token (.object [("side", .str "\x7bedge\x7d"),
      ("sizes", .list [.int 1, .str "\x7bwidth\x7d"])])),
    ("edge", token (.list [.str "\x7bframe\x7d"]))]

/-- With an outcome of another path planted in the cache, for a path that is no token. -/
theorem run_faultless_planted :
    (∀ tree ∈ [nested], tree.isWellKeyed = true) ∧
      (∃ outcome cache' journal,
        (start [("width", ⟨"elsewhere", .resolved, .list [.null]⟩)] "frame").run
          (Graph.build {} [nested]) true = ⟨[], .deliver outcome, cache', journal⟩) ∧
      ∀ machine,
        Steps (Graph.build {} [nested]) true
          (start [("width", ⟨"elsewhere", .resolved, .list [.null]⟩)] "frame") machine →
        machine.Faultless (Graph.build {} [nested]) := by
  have h : ∀ tree ∈ [nested], tree.isWellKeyed = true := by decide
  obtain ⟨⟨outcome, cache', journal, -, ends⟩, faultless⟩ :=
    run_faultless {} [nested] h true [("width", ⟨"elsewhere", .resolved, .list [.null]⟩)] "frame"
  exact ⟨h, ⟨outcome, cache', journal, ends⟩, faultless⟩

end Machine

end DesignTokens
