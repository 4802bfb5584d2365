import DesignTokens.Proofs.Action
import DesignTokens.Proofs.Resolution.Built
import DesignTokens.Proofs.Resolution.Simulation
import DesignTokens.Resolver

/-! What a resolver answers. Its status is a statement about where references lead,
and its value obeys one equation for each kind of content. -/
namespace DesignTokens

namespace Machine

/-- From a sound cache every request ends with the answer of the rule, and the cache gains
what the path leads to. -/
theorem settled_of_sound {graph : Graph} {cache : Entries Resolution} (sound : Sound graph cache)
    (memoize : Bool) (path : String) :
    ∃ cache' journal, Gains graph memoize (graph.Reaches path) cache cache' ∧
      Resolver.settled graph memoize cache path =
        ⟨[], .deliver (graph.resolutionOf path), cache', journal⟩ := by
  have following : Following graph [] [] path [] path cache := {
    marks := fun p => iff_of_false List.not_mem_nil List.not_mem_nil
    leads := fun p member => absurd member List.not_mem_nil
    starts := fun _ => rfl
    forwards := fun p member => absurd member List.not_mem_nil
    follows := fun p member => absurd member List.not_mem_nil
    sound := sound }
  obtain ⟨cache', journal, gains, steps⟩ :=
    simulates graph memoize [] [] path [] path none cache [] following
  refine ⟨cache', journal, gains.congr fun p _ => ?_, ?_⟩
  · rw [Graph.reachesPast_nil_iff]
    exact or_iff_right List.not_mem_nil
  · unfold Resolver.settled start
    rw [run_of_steps steps, run_of_delivered]
    rfl

/-- The machine that starts with nothing visited and nothing cached ends with what the
rule says of the path, whether it fills the cache or not. -/
theorem run_start_eq_resolution (settings : Settings) (trees : List Value) (memoize : Bool)
    (path : String) :
    let graph := Graph.build settings trees
    ∃ cache journal, (start [] path).run graph memoize =
      ⟨[], .deliver ⟨path, (resolution graph [] path none).1, (resolution graph [] path none).2⟩,
        cache, journal⟩ := by
  intro graph
  obtain ⟨cache, journal, -, ends⟩ := settled_of_sound (sound_nil graph) memoize path
  exact ⟨cache, journal, ends⟩

end Machine

namespace Resolver

/-- A resolver whose cache is sound answers by the rule and caches what the path leads to.
What it verifies is that the rule agrees with itself. -/
theorem ends_resolve {graph : Graph} {cache : Entries Resolution}
    (sound : Machine.Sound graph cache) (memoize verify : Bool) (path : String)
    (agrees : verify = true →
      (graph.resolutionOf path).agrees (graph.resolutionOf path) = true) :
    ∃ cache', Machine.Gains graph memoize (graph.Reaches path) cache cache' ∧
      (resolve path).Ends ⟨graph, memoize, verify, cache⟩ (.ok (graph.resolutionOf path))
        ⟨graph, memoize, verify, cache'⟩ := by
  obtain ⟨first, events, gains, settles⟩ := Machine.settled_of_sound sound memoize path
  obtain ⟨second, others, -, checks⟩ :=
    Machine.settled_of_sound (Machine.sound_nil graph) false path
  refine ⟨first, gains, ?_⟩
  unfold resolve
  apply (Action.ends_state _).bind
  dsimp only
  rw [settles, checks]
  apply (Action.ends_put _ _).bind
  apply (Action.ends_report _ _).bind
  cases verify with
  | false => exact Action.ends_pure _ _
  | true =>
    rw [if_pos rfl]
    apply (Action.ends_report _ _).bind
    simp only [Machine.outcome, agrees rfl, if_true]
    exact Action.ends_pure _ _

theorem result_resolve (graph : Graph) (memoize : Bool) (path : String) :
    ((resolve path).run { graph, memoize }).result = .ok (graph.resolutionOf path) := by
  obtain ⟨cache, -, ends⟩ :=
    ends_resolve (Machine.sound_nil graph) memoize false path (absurd · Bool.false_ne_true)
  exact ends.result

/-- A request always comes to an answer, which says what following references can come
to: a cycle before a path that is no token, and that before an ordinary value. -/
theorem resolve_status_iff (settings : Settings) (trees : List Value) (memoize : Bool)
    (path : String) :
    let graph := Graph.build settings trees
    ∃ outcome, ((resolve path).run { graph, memoize }).result = .ok outcome ∧
      (outcome.status = .cyclic ↔
        ∃ goal, graph.Reaches path goal ∧ graph.OnCycle goal) ∧
      (outcome.status = .missing ↔
        (¬ ∃ goal, graph.Reaches path goal ∧ graph.OnCycle goal) ∧
          ∃ goal, graph.Reaches path goal ∧ graph.has goal = false) ∧
      (outcome.status = .resolved ↔
        (¬ ∃ goal, graph.Reaches path goal ∧ graph.OnCycle goal) ∧
          ¬ ∃ goal, graph.Reaches path goal ∧ graph.has goal = false) ∧
      (graph.has path = false → outcome = ⟨path, .missing, .null⟩) := by
  intro graph
  obtain ⟨cache, -, ends⟩ :=
    ends_resolve (Machine.sound_nil graph) memoize false path (absurd · Bool.false_ne_true)
  refine ⟨_, ends.result, answer_status_eq_cyclic_iff, answer_status_eq_missing_iff,
    answer_status_eq_resolved_iff, ?_⟩
  intro unknown
  have absent : graph.node? path = none := by
    rw [← Option.isNone_iff_eq_none]
    exact Option.isSome_eq_false_iff.mp unknown
  rw [Graph.resolutionOf, answer_of_absent absent]
  rfl

/-- What stands at a reference: the answer for its path, or its own text when that
fails. -/
def standIn (answer : String → Resolution) (reference : Reference) : Value :=
  if (answer reference.path).status = .resolved then (answer reference.path).value
  else .str reference.raw

/-- One equation for each kind of content, each in terms of the answers to the paths
that a token refers to. -/
structure Equations (graph : Graph) (answer : String → Resolution) : Prop where
  named : ∀ path, (answer path).path = path
  concrete : ∀ {path node value}, graph.node? path = some node →
    node.content = .concrete value → answer path = ⟨path, .resolved, node.token.value⟩
  «alias» : ∀ {path node reference}, graph.node? path = some node →
    node.content = .alias reference →
      (answer path).status = (answer reference.path).status ∧
      (answer path).value =
        if (answer reference.path).status = .resolved then (answer reference.path).value
        else node.token.value
  /-- The declared value changes at its sites and nowhere else. -/
  composite : ∀ {path node value first rest}, graph.node? path = some node →
    node.content = .composite value first rest →
      (answer path).status =
        Status.worst ((first :: rest).map fun site => (answer site.reference.path).status) ∧
      (answer path).value = node.token.value.substitute (standIn answer) ∧
      ∀ site ∈ first :: rest,
        (answer path).value.get site.location = .ok (standIn answer site.reference)

theorem equations_build (settings : Settings) {trees : List Value}
    (h : ∀ tree ∈ trees, tree.isWellKeyed = true) :
    Equations (Graph.build settings trees) (Graph.build settings trees).resolutionOf where
  named _ := rfl
  concrete found content := by
    unfold Graph.resolutionOf
    rw [answer_of_concrete found content, Graph.declared_of_concrete found content]
    rfl
  «alias» found content := by
    unfold Graph.resolutionOf
    rw [answer_of_alias found content]
    refine ⟨handOn_status .., ?_⟩
    unfold Resolution.ofAnswer handOn
    split <;> rfl
  composite found content := by
    obtain ⟨-, sites, whole⟩ := Graph.declared_of_composite found content
    unfold Graph.resolutionOf
    rw [answer_of_composite_build h found content]
    refine ⟨rfl, rfl, ?_⟩
    intro site member
    rw [sites, Value.sites_eq_references whole] at member
    exact Value.get_substitute _ (Graph.isWellKeyed_build h found) member

/-- Independent requests, each made to a resolver of its own, obey the equations
although a request only ever sees its own chain, also for tokens on a cycle. -/
theorem resolve_obeys_equations (settings : Settings) (trees : List Value)
    (h : ∀ tree ∈ trees, tree.isWellKeyed = true) (memoize verify : Bool) :
    let graph := Graph.build settings trees
    ∃ answer : String → Resolution,
      (∀ path, ((resolve path).run { graph, memoize, verify }).result = .ok (answer path)) ∧
        Equations graph answer := by
  intro graph
  refine ⟨graph.resolutionOf, ?_, equations_build settings h⟩
  intro path
  obtain ⟨cache, -, ends⟩ :=
    ends_resolve (Machine.sound_nil graph) memoize verify path fun _ =>
      Resolution.agrees_refl _ (isWellKeyed_resolution h [] path none)
  exact ends.result

/-- A frame that refers to itself on one side and to an ordinary token for its width. -/
def frameWithin : Value :=
  let token (value : Value) := Value.object [("$type", .str "border"), ("$value", value)]
  .object [
    ("frame", token (.object [("side", .str "\x7bframe\x7d"), ("width", .str "\x7bwidth\x7d")])),
    ("width", token (.int 1))]

theorem equations_of_frameWithin :
    (∀ tree ∈ [frameWithin], tree.isWellKeyed = true) ∧
      ∃ answer : String → Resolution,
        (∀ path, ((resolve path).run
          { graph := Graph.build {} [frameWithin], verify := true }).result =
            .ok (answer path)) ∧
        Equations (Graph.build {} [frameWithin]) answer := by
  have h : ∀ tree ∈ [frameWithin], tree.isWellKeyed = true := by decide
  exact ⟨h, resolve_obeys_equations {} [frameWithin] h true true⟩

end Resolver

end DesignTokens
