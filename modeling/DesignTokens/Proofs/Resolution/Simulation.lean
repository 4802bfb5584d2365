import DesignTokens.Proofs.Resolution.Cache

/-! The machine follows the rule. From a state that is about to follow a reference,
some steps lead to the state that delivers what the rule says of it, above the same
stack and with a cache that has gained the resolved answers met on the way. -/
namespace DesignTokens

namespace Machine

variable {graph : Graph} {memoize : Bool}

def Steps (graph : Graph) (memoize : Bool) : Machine → Machine → Prop :=
  Relation.ReflTransGen fun machine next => machine.step? graph memoize = some next

theorem Steps.one {machine next : Machine} (step : machine.step? graph memoize = some next) :
    Steps graph memoize machine next := .single step

theorem run_of_step? {machine next : Machine} (step : machine.step? graph memoize = some next) :
    machine.run graph memoize = next.run graph memoize := by
  rw [run]
  split
  · next other same =>
    obtain rfl : next = other := Option.some.inj (step.symm.trans same)
    rfl
  · next stuck =>
    rw [step] at stuck
    contradiction

theorem run_of_steps {machine last : Machine} (steps : Steps graph memoize machine last) :
    machine.run graph memoize = last.run graph memoize := by
  induction steps with
  | refl => rfl
  | tail _ step ih => rw [ih, run_of_step? step]

/-- A machine that delivers to the empty stack has finished. -/
theorem run_of_delivered (outcome : Resolution) (cache : Entries Resolution) (journal : Journal) :
    run graph memoize ⟨[], .deliver outcome, cache, journal⟩ =
      ⟨[], .deliver outcome, cache, journal⟩ := by
  rw [run]
  rfl

/-- What a chain delivers. Past its first path it is an alias that hands on. -/
def delivered (graph : Graph) (origin : String) (chain : List String)
    (answer : Status × Value) : Resolution :=
  .ofAnswer origin (if chain = [] then answer else handOn (graph.declared origin) answer)

theorem delivered_of_resolved (origin : String) (chain : List String) (value : Value) :
    delivered graph origin chain (.resolved, value) = ⟨origin, .resolved, value⟩ := by
  rw [delivered, handOn_of_resolved _ rfl, ite_self]
  rfl

/-- An alias on the chain leaves what is delivered to the path it refers to. -/
theorem delivered_of_alias {node : Node} {origin path : String} {chain : List String}
    (found : graph.node? path = some node) (starts : chain = [] → path = origin)
    (answer : Status × Value) :
    delivered graph origin (chain ++ [path]) answer =
      delivered graph origin chain (handOn node.token.value answer) := by
  unfold delivered
  rw [if_neg (by simp)]
  by_cases empty : chain = []
  · rw [if_pos empty, ← starts empty, Graph.declared, found]
    rfl
  · rw [if_neg empty, handOn_handOn]

theorem settle_resolved (memoize : Bool) (machine : Machine) (origin : String)
    (chain : List String) (value : Value) (written : Option Value) :
    settle graph memoize machine origin chain .resolved value written =
      { machine with
        cache := keepChain memoize chain (.resolved, value) machine.cache
        task := .deliver ⟨origin, .resolved, value⟩ } := by
  unfold settle keepChain
  rw [if_pos rfl]
  cases memoize <;> rfl

theorem settle_failed (machine : Machine) (origin : String) (chain : List String)
    {status : Status} (value : Value) (written : Option Value) (fails : status ≠ .resolved) :
    settle graph memoize machine origin chain status value written =
      { machine with task := .deliver ⟨origin, status,
          match written, chain with
          | some written, [_] => written
          | _, _ => graph.declared origin⟩ } := by
  unfold settle
  exact if_neg fails

theorem keepChain_failed (memoize : Bool) (chain : List String) {answer : Status × Value}
    (cache : Entries Resolution) (fails : answer.1 ≠ .resolved) :
    keepChain memoize chain answer cache = cache :=
  if_neg fun kept => fails kept.2

/-- A composite ends its chain with what could be written of it. -/
theorem settle_composite (memoize : Bool) (machine : Machine) (origin : String)
    (chain : List String) (path : String) (answer : Status × Value) :
    settle graph memoize machine origin (chain ++ [path]) answer.1 answer.2 (some answer.2) =
      { machine with
        cache := keepChain memoize (chain ++ [path]) answer machine.cache
        task := .deliver (delivered graph origin chain answer) } := by
  obtain ⟨status, value⟩ := answer
  by_cases success : status = .resolved
  · subst success
    rw [delivered_of_resolved]
    exact settle_resolved memoize machine origin _ value _
  · rw [settle_failed _ _ _ _ _ success, keepChain_failed _ _ _ success, delivered]
    cases chain with
    | nil => rfl
    | cons first rest =>
      rw [if_neg (List.cons_ne_nil first rest), handOn_of_failed _ success]
      cases rest <;> rfl

/-- A chain that stops ends before the path it was to follow next. -/
theorem stop_delivers (memoize : Bool) (machine : Machine) {origin : String} {chain : List String}
    {outcome : Resolution} (starts : chain = [] → outcome.path = origin) :
    stop graph memoize machine origin chain outcome =
      { machine with
        cache := keepChain memoize chain (outcome.status, outcome.value) machine.cache
        task := .deliver (delivered graph origin chain (outcome.status, outcome.value)) } := by
  obtain ⟨path, status, value⟩ := outcome
  unfold stop
  by_cases empty : chain = []
  · subst empty
    rw [if_pos rfl, delivered, if_pos rfl, ← starts rfl]
    unfold keepChain
    rw [List.foldl_nil, ite_self]
    rfl
  · rw [if_neg empty]
    by_cases success : status = .resolved
    · subst success
      rw [delivered_of_resolved]
      exact settle_resolved memoize machine origin chain value none
    · rw [settle_failed _ _ _ _ _ success, keepChain_failed _ _ _ success, delivered, if_neg empty,
        handOn_of_failed _ success]
      rfl

section

variable {origin path : String} {chain : List String} {via : Option Reference}

theorem followStep_of_hit (machine : Machine) {hit : Resolution}
    (found : machine.cache.lookup path = some hit) :
    followStep graph memoize machine origin chain path via =
      stop graph memoize machine origin chain hit := by
  unfold followStep
  rw [found]

theorem followStep_of_absent (machine : Machine) (unknown : machine.cache.lookup path = none)
    (absent : graph.node? path = none) :
    followStep graph memoize machine origin chain path via =
      stop graph memoize { machine with journal := machine.journal ++ [.targetMissing path] }
        origin chain ⟨origin, .missing, missingValue via⟩ := by
  unfold followStep
  rw [unknown, absent]

theorem followStep_of_visited (machine : Machine) (unknown : machine.cache.lookup path = none)
    {node : Node} (found : graph.node? path = some node)
    (seen : path ∈ chain ++ visiting machine.stack) :
    followStep graph memoize machine origin chain path via =
      stop graph memoize { machine with journal := machine.journal ++ [.cycleEntered path] }
        origin chain ⟨origin, .cyclic, node.token.value⟩ := by
  unfold followStep
  rw [unknown, found]
  dsimp only
  rw [if_pos seen]

/-- At a new token the content decides. -/
theorem followStep_of_new (memoize : Bool) (machine : Machine) (origin : String)
    (via : Option Reference) (unknown : machine.cache.lookup path = none)
    {node : Node} (found : graph.node? path = some node)
    (new : path ∉ chain ++ visiting machine.stack) :
    followStep graph memoize machine origin chain path via =
      match node.content with
      | .concrete value =>
        settle graph memoize machine origin (chain ++ [path]) .resolved value none
      | .alias reference =>
        { machine with
          task := .follow origin (chain ++ [path]) reference.path (some reference) }
      | .composite value first rest =>
        { machine with
          stack := ⟨origin, chain ++ [path], value, .resolved, first, rest⟩ :: machine.stack
          task := .follow first.reference.path [] first.reference.path (some first.reference) } := by
  unfold followStep
  rw [unknown, found]
  exact if_neg new

end

/-- A state about to follow a reference, and the chain in which the rule stands then.
The machine keeps the visited paths in pieces, one for each composite that waits. -/
structure Following (graph : Graph) (visited : List String) (stack : List Waiting)
    (origin : String) (chain : List String) (path : String) (cache : Entries Resolution) :
    Prop where
  marks : ∀ p, p ∈ visited ↔ p ∈ chain ++ visiting stack
  leads : ∀ p ∈ visited, Relation.TransGen graph.Refers p path
  starts : chain = [] → path = origin
  /-- The chain so far consists of aliases. -/
  forwards : ∀ p ∈ chain, (graph.answer path).1 = .resolved → graph.answer p = graph.answer path
  follows : ∀ p ∈ chain, ∀ target, graph.Refers p target → target ∈ chain ∨ target = path
  sound : Sound graph cache

/-- Some steps lead from following the path to delivering what the rule says of it. The
cache gains the chain and what the path leads to past the visited paths. -/
def Delivers (graph : Graph) (memoize : Bool) (visited : List String) (stack : List Waiting)
    (origin : String) (chain : List String) (path : String) (via : Option Reference)
    (cache : Entries Resolution) (journal : Journal) : Prop :=
  ∃ cache' journal',
    Gains graph memoize (fun p => p ∈ chain ∨ graph.ReachesPast visited path p) cache cache' ∧
    Steps graph memoize ⟨stack, .follow origin chain path via, cache, journal⟩
      ⟨stack, .deliver (delivered graph origin chain (resolution graph visited path via)),
        cache', journal'⟩

/-- From every state in which the rule has visited these paths. -/
def Simulates (graph : Graph) (memoize : Bool) (visited : List String) : Prop :=
  ∀ (stack : List Waiting) (origin : String) (chain : List String) (path : String)
    (via : Option Reference) (cache : Entries Resolution) (journal : Journal),
    Following graph visited stack origin chain path cache →
      Delivers graph memoize visited stack origin chain path via cache journal

section

variable {visited : List String} {stack : List Waiting} {origin path : String}
  {chain : List String} {via : Option Reference} {cache : Entries Resolution}

/-- The paths of the chain resolve just as the path does. -/
theorem Following.settles (following : Following graph visited stack origin chain path cache)
    (via : Option Reference) :
    ∀ p ∈ chain ++ [path],
      (graph.answer p).1 = .resolved ∨ (resolution graph visited path via).1 = .resolved →
        graph.answer p = resolution graph visited path via := by
  intro p member success
  have reached : graph.Reaches p path := by
    rcases List.mem_append.mp member with before | last
    · have seen := (following.marks p).mpr (List.mem_append_left _ before)
      exact (following.leads p seen).to_reflTransGen
    · rw [List.mem_singleton.mp last]
      exact .refl
  have resolves : (graph.answer path).1 = .resolved := by
    rcases success with onChain | here
    · exact answer_resolved_of_reaches onChain reached
    · rwa [← status_of_chain following.leads]
  rw [resolution_of_chain following.leads resolves]
  rcases List.mem_append.mp member with before | last
  · exact following.forwards p before resolves
  · rw [List.mem_singleton.mp last]

theorem Following.not_mem_iff (following : Following graph visited stack origin chain path cache)
    (p : String) : p ∉ visited ↔ p ∉ chain ++ visiting stack :=
  not_congr (following.marks p)

/-- Visiting the path and following a reference of its token. -/
theorem Following.leads_below (following : Following graph visited stack origin chain path cache)
    {target : String} (refers : graph.Refers path target) :
    ∀ p ∈ path :: visited, Relation.TransGen graph.Refers p target := by
  intro p member
  rcases List.mem_cons.mp member with rfl | before
  · exact .single refers
  · exact (following.leads p before).tail refers

theorem Following.marks_below (following : Following graph visited stack origin chain path cache)
    (p : String) : p ∈ path :: visited ↔ p ∈ (chain ++ [path]) ++ visiting stack := by
  rw [List.mem_cons, following.marks]
  grind

/-- The chain, with the path added to it, refers to itself and to what the path refers to. -/
theorem Following.follows_below (following : Following graph visited stack origin chain path cache)
    {p target : String} (member : p ∈ chain ++ [path]) (refers : graph.Refers p target) :
    target ∈ chain ++ [path] ∨ graph.Refers path target := by
  rcases List.mem_append.mp member with before | last
  · rw [List.mem_append, List.mem_singleton]
    exact .inl (following.follows p before target refers)
  · exact .inr (List.mem_singleton.mp last ▸ refers)

/-- A resolved reference of the path has not been visited. -/
theorem Following.new_below (following : Following graph visited stack origin chain path cache)
    {target : String} (refers : graph.Refers path target)
    (resolves : (graph.answer target).1 = .resolved) : target ∉ path :: visited :=
  fun seen => not_onCycle_of_resolved resolves (following.leads_below refers target seen)

theorem Following.of_alias (following : Following graph visited stack origin chain path cache)
    {node : Node} (found : graph.node? path = some node) {reference : Reference}
    (content : node.content = .alias reference) :
    Following graph (path :: visited) stack origin (chain ++ [path]) reference.path cache where
  marks := following.marks_below
  leads := by
    apply following.leads_below
    rw [Graph.refers_iff found, content, Content.mem_targets_alias]
  starts empty := absurd empty (by simp)
  forwards p member success := by
    have same : graph.answer path = graph.answer reference.path := by
      rw [answer_of_alias found content, handOn_of_resolved _ success]
    rcases List.mem_append.mp member with before | last
    · rw [← same] at success ⊢
      exact following.forwards p before success
    · rw [List.mem_singleton.mp last, same]
  follows p member target refers := by
    refine (following.follows_below member refers).imp_right fun refers => ?_
    rwa [Graph.refers_iff found, content, Content.mem_targets_alias] at refers
  sound := following.sound

theorem Following.of_site {outer : List Waiting} {target : String} (waiting : Waiting)
    (marks : ∀ p, p ∈ visited ↔ p ∈ waiting.chain ++ visiting outer)
    (leads : ∀ p ∈ visited, Relation.TransGen graph.Refers p target)
    (sound : Sound graph cache) :
    Following graph visited (waiting :: outer) target [] target cache where
  marks p := by rw [marks, visiting, visiting, List.flatMap_cons, List.nil_append]
  leads := leads
  starts _ := rfl
  forwards _ member := absurd member List.not_mem_nil
  follows _ member := absurd member List.not_mem_nil
  sound := sound

end

/-- The sites of a composite, one after the other. -/
theorem steps_sites {visited : List String} (simulates : Simulates graph memoize visited)
    (origin : String) (chain : List String) (outer : List Waiting)
    (marks : ∀ p, p ∈ visited ↔ p ∈ chain ++ visiting outer) (rest : List ReferenceSite)
    (value : Value) (worst : Status) (site : ReferenceSite) (cache : Entries Resolution)
    (journal : Journal)
    (leads : ∀ s ∈ site :: rest, ∀ p ∈ visited,
      Relation.TransGen graph.Refers p s.reference.path)
    (sound : Sound graph cache) :
    ∃ cache' journal' task,
      Gains graph memoize
        (fun p => ∃ s ∈ site :: rest, graph.ReachesPast visited s.reference.path p) cache cache' ∧
      Steps graph memoize
        ⟨⟨origin, chain, value, worst, site, rest⟩ :: outer,
          .follow site.reference.path [] site.reference.path (some site.reference),
          cache, journal⟩
        (settle graph memoize ⟨outer, task, cache', journal'⟩ origin chain
          (((site :: rest).map fun s => (below graph visited s.reference).1).foldl
            Status.worse worst)
          ((site :: rest).foldl (writeSite (below graph visited)) value)
          (some ((site :: rest).foldl (writeSite (below graph visited)) value))) := by
  induction rest generalizing value worst site cache journal with
  | nil =>
    obtain ⟨cache', journal, gains, steps⟩ := simulates _ _ _ _ (some site.reference) _ journal
      (Following.of_site ⟨origin, chain, value, worst, site, []⟩ marks
        (leads site List.mem_cons_self) sound)
    exact ⟨cache', journal, _, gains.congr (by simp), steps.tail rfl⟩
  | cons next rest ih =>
    obtain ⟨cache', journal, gains, steps⟩ := simulates _ _ _ _ (some site.reference) _ journal
      (Following.of_site ⟨origin, chain, value, worst, site, next :: rest⟩ marks
        (leads site List.mem_cons_self) sound)
    obtain ⟨cache'', journal, task, others, more⟩ := ih
      (writeSite (below graph visited) value site)
      (worst.worse (below graph visited site.reference).1)
      next cache' journal (fun s member => leads s (List.mem_cons_of_mem site member)) gains.sound
    exact ⟨cache'', journal, task, (gains.trans others).congr (by simp),
      (steps.tail rfl).trans more⟩

section

variable {visited : List String} {stack : List Waiting} {origin path : String}
  {chain : List String} {via : Option Reference} {cache : Entries Resolution}
  (following : Following graph visited stack origin chain path cache) (journal : Journal)

include following

/-- A chain that stops delivers the outcome at which it stops. Nothing past its end is
gained: what it leads to is cached already or does not resolve. -/
theorem delivers_of_stop (events : Journal) {outcome : Resolution}
    (stops : followStep graph memoize ⟨stack, .follow origin chain path via, cache, journal⟩
        origin chain path via =
      stop graph memoize ⟨stack, .follow origin chain path via, cache, journal ++ events⟩
        origin chain outcome)
    (starts : chain = [] → outcome.path = origin)
    (rule : resolution graph visited path via = (outcome.status, outcome.value))
    (known : ∀ p, (graph.answer p).1 = .resolved → graph.ReachesPast visited path p →
      p ∈ cache.keys)
    (hit : outcome.status = .resolved → path ∈ cache.keys) :
    Delivers graph memoize visited stack origin chain path via cache journal := by
  have chained : Gains graph memoize (· ∈ chain) cache
      (keepChain memoize chain (outcome.status, outcome.value) cache) := by
    apply gains_keepChain following.sound
    · intro p member
      rw [← rule]
      exact following.settles via p (List.mem_append_left [path] member)
    · intro _ success p member target refers
      refine (following.follows p member target refers).imp_right fun last => ?_
      exact last ▸ hit success
  refine ⟨_, journal ++ events,
    ((gains_nothing following.sound known).trans chained).congr fun p _ => or_comm, .one ?_⟩
  rw [rule]
  exact congrArg some (stops.trans (stop_delivers memoize _ starts))

/-- A cached outcome is what the rule says, whatever chain asks for it. -/
theorem delivers_of_hit {hit : Resolution} (known : cache.lookup path = some hit) :
    Delivers graph memoize visited stack origin chain path via cache journal := by
  obtain ⟨rfl, success⟩ := following.sound.answers path hit known
  have cached : path ∈ cache.keys := Entries.mem_keys_of_lookup known
  apply delivers_of_stop following journal []
  · rw [List.append_nil]
    exact followStep_of_hit _ known
  · exact following.starts
  · exact resolution_of_chain following.leads success
  · exact fun p _ reached => following.sound.mem_keys_of_reaches cached reached.reaches
  · exact fun _ => cached

theorem delivers_of_absent (unknown : cache.lookup path = none)
    (absent : graph.node? path = none) :
    Delivers graph memoize visited stack origin chain path via cache journal := by
  apply delivers_of_stop following journal [.targetMissing path]
  · exact followStep_of_absent _ unknown absent
  · exact fun _ => rfl
  · exact resolution_of_absent absent
  · intro p resolves reached
    rw [Graph.reaches_of_absent absent reached.reaches, answer_of_absent absent] at resolves
    contradiction
  · exact fun success => absurd success (by simp)

theorem delivers_of_visited (unknown : cache.lookup path = none) {node : Node}
    (found : graph.node? path = some node) (seen : path ∈ visited) :
    Delivers graph memoize visited stack origin chain path via cache journal := by
  apply delivers_of_stop following journal [.cycleEntered path]
  · exact followStep_of_visited _ unknown found ((following.marks path).mp seen)
  · exact fun _ => rfl
  · exact resolution_of_visited found seen
  · exact fun p _ reached => absurd reached (Graph.not_reachesPast_of_visited seen)
  · exact fun success => absurd success (by simp)

variable (unknown : cache.lookup path = none) {node : Node}
  (found : graph.node? path = some node) (new : path ∉ visited)

include unknown found new

theorem delivers_of_concrete {value : Value} (content : node.content = .concrete value) :
    Delivers graph memoize visited stack origin chain path via cache journal := by
  have step := followStep_of_new memoize
    ⟨stack, .follow origin chain path via, cache, journal⟩ origin via unknown found
    ((following.not_mem_iff path).mp new)
  rw [content] at step
  have rule : resolution graph visited path via = (.resolved, value) :=
    resolution_of_concrete found new content
  have ends (target : String) : ¬ graph.Refers path target := by
    rw [Graph.refers_iff found, content]
    exact Content.mem_targets_concrete
  have chained : Gains graph memoize (· ∈ chain ++ [path]) cache
      (keepChain memoize (chain ++ [path]) (.resolved, value) cache) := by
    apply gains_keepChain following.sound
    · rw [← rule]
      exact following.settles via
    · intro _ _ p member target refers
      exact (following.follows_below member refers).imp_right
        fun refers => absurd refers (ends target)
  refine ⟨_, journal, chained.congr fun p _ => ?_, .one ?_⟩
  · rw [Graph.reachesPast_iff new]
    simp [ends]
  · rw [rule, delivered_of_resolved]
    exact congrArg some (step.trans (settle_resolved ..))

/-- An alias makes the chain longer by one path. -/
theorem delivers_of_alias (simulates : Simulates graph memoize (path :: visited))
    {reference : Reference} (content : node.content = .alias reference) :
    Delivers graph memoize visited stack origin chain path via cache journal := by
  have step := followStep_of_new memoize
    ⟨stack, .follow origin chain path via, cache, journal⟩ origin via unknown found
    ((following.not_mem_iff path).mp new)
  rw [content] at step
  obtain ⟨cache', events, gains, steps⟩ := simulates stack origin (chain ++ [path])
    reference.path (some reference) cache journal (following.of_alias found content)
  refine ⟨cache', events, gains.congr fun p _ => ?_, .head (congrArg some step) ?_⟩
  · rw [Graph.reachesPast_iff new]
    simp [Graph.refers_iff found, content, or_assoc]
  · rw [resolution_of_alias found new content, ← delivered_of_alias found following.starts]
    exact steps

/-- A composite waits on the stack until all its sites are done. -/
theorem delivers_of_composite (simulates : Simulates graph memoize (path :: visited))
    {value : Value} {first : ReferenceSite} {rest : List ReferenceSite}
    (content : node.content = .composite value first rest) :
    Delivers graph memoize visited stack origin chain path via cache journal := by
  have step := followStep_of_new memoize
    ⟨stack, .follow origin chain path via, cache, journal⟩ origin via unknown found
    ((following.not_mem_iff path).mp new)
  rw [content] at step
  have refers_iff (target : String) :
      graph.Refers path target ↔ ∃ site ∈ first :: rest, site.reference.path = target := by
    rw [Graph.refers_iff found, content, Content.mem_targets_composite]
  have leads (site : ReferenceSite) (member : site ∈ first :: rest) :
      ∀ p ∈ path :: visited, Relation.TransGen graph.Refers p site.reference.path :=
    following.leads_below ((refers_iff _).mpr ⟨site, member, rfl⟩)
  obtain ⟨cache', events, task, gains, steps⟩ := steps_sites simulates origin (chain ++ [path])
    stack following.marks_below rest value .resolved first cache journal leads following.sound
  have rule : resolution graph visited path via =
      assemble value (first :: rest) (below graph (path :: visited)) :=
    resolution_of_composite found new content
  have chained : Gains graph memoize (· ∈ chain ++ [path]) cache'
      (keepChain memoize (chain ++ [path]) (resolution graph visited path via) cache') := by
    apply gains_keepChain gains.sound (following.settles via)
    intro memoizes success p member target refers
    refine (following.follows_below member refers).imp_right fun refers => ?_
    -- A resolved composite has all its references cached by now.
    have here := following.settles via path (by simp) (.inr success)
    have resolves : (graph.answer target).1 = .resolved := by
      apply answer_resolved_of_reaches _ (.single refers)
      rw [here, success]
    obtain ⟨site, among, rfl⟩ := (refers_iff target).mp refers
    exact (gains.mem_keys _).mpr
      (.inr ⟨memoizes, resolves, site, among, following.new_below refers resolves, .refl⟩)
  refine ⟨_, events, (gains.trans chained).congr fun p _ => ?_, .head (congrArg some step) ?_⟩
  · rw [Graph.reachesPast_iff new]
    simp only [refers_iff]
    grind
  · rw [rule] at chained ⊢
    rw [← settle_composite memoize ⟨stack, task, cache', events⟩]
    exact steps

end

/-- By induction on how many paths are still unvisited, one case for each way in which
a path is followed. -/
theorem simulates (graph : Graph) (memoize : Bool) (visited : List String) :
    Simulates graph memoize visited := by
  induction fewer : graph.unvisited visited using Nat.strongRecOn generalizing visited with
  | _ n ih =>
    subst fewer
    intro stack origin chain path via cache journal following
    cases unknown : cache.lookup path with
    | some hit => exact delivers_of_hit following journal unknown
    | none =>
      cases found : graph.node? path with
      | none => exact delivers_of_absent following journal unknown found
      | some node =>
        by_cases seen : path ∈ visited
        · exact delivers_of_visited following journal unknown found seen
        · have below : Simulates graph memoize (path :: visited) :=
            ih _ (Graph.unvisited_lt (Graph.mem_paths_of_node? found) seen
              (List.subset_cons_self path visited) List.mem_cons_self) _ rfl
          cases content : node.content with
          | concrete value =>
            exact delivers_of_concrete following journal unknown found seen content
          | «alias» reference =>
            exact delivers_of_alias following journal unknown found seen below content
          | composite value first rest =>
            exact delivers_of_composite following journal unknown found seen below content

end Machine

end DesignTokens
