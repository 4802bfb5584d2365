import DesignTokens.Proofs.Duplicate
import DesignTokens.Session

/-! What a run of a session comes to, whatever the session was used for before: a report, unless
there is a value to compare that cannot be written. It leaves a resolver for the graph that the
report is about. -/
namespace DesignTokens.Session

/-- A session with these settings whose resolver is one of the graph. -/
structure Serves (settings : Settings) (graph : Graph) (session : Session) : Prop where
  settings_eq : session.settings = settings
  resolver : ∃ resolver, session.resolver = some resolver ∧ resolver.Serves graph

variable {settings : Settings} {graph : Graph} {session : Session}

theorem Serves.graph_eq (serves : session.Serves settings graph) : session.graph = graph := by
  obtain ⟨resolver, held, serves⟩ := serves.resolver
  rw [Session.graph, held]
  exact serves.graph_eq

theorem gives_withResolver {ε α : Type} (request : Request) (wrap : ε → SessionError)
    {action : Action Resolver ε α} {result : Except ε α}
    (gives : action.Gives (Resolver.Serves graph) result) :
    (withResolver request wrap action).Gives (Serves settings graph) (result.mapError wrap) := by
  intro session serves
  obtain ⟨resolver, held, served⟩ := serves.resolver
  obtain ⟨after, kept, ends⟩ := gives resolver served
  refine ⟨{ session with resolver := some after }, ⟨serves.settings_eq, after, rfl, kept⟩, ?_⟩
  unfold withResolver
  apply (Action.ends_state session).bind
  rw [held]
  dsimp only
  rw [ends.state]
  exact (Action.ends_put _ _).bind (ends.absorb _ _)

/-- Whatever was built before is given up. -/
theorem ends_build (trees : List Value) (session : Session) :
    ∃ built, built.Serves session.settings (Graph.build session.settings trees) ∧
      (build trees).Ends session (.ok (Graph.build session.settings trees)) built := by
  have new := Resolver.serves_new (Graph.build session.settings trees)
    session.settings.memoize.isTruthy session.settings.verify.isTruthy
  refine ⟨{ session with resolver := some _ }, ⟨rfl, _, rfl, new⟩, ?_⟩
  unfold build
  apply (Action.ends_state session).bind
  apply (Action.ends_report _ _).bind
  exact (Action.ends_put _ _).map _

/-- The tokens that are compared when the graph has been built. -/
def candidatesIn (settings : Settings) (graph : Graph) : Option Value → List Token
  | some tree => Tree.tokens settings tree
  | none => graph.tokens.items

/-- The tokens among them whose values are compared. -/
def comparedIn (settings : Settings) (graph : Graph) (wanted : List Datum)
    (scope : Option Value) : List Token :=
  (candidatesIn settings graph scope).filter (Duplicate.isCandidate wanted)

def duplicatesIn (room : Nat) (settings : Settings) (graph : Graph) (wanted : List Datum)
    (scope : Option Value) : Except Json.Unwritable (List DuplicateGroup) :=
  (Duplicate.groupsIn room graph (comparedIn settings graph wanted scope)).map Duplicate.ranked

theorem exists_duplicatesIn_iff {room : Nat} {wanted : List Datum} {scope : Option Value} :
    (∃ groups, duplicatesIn room settings graph wanted scope = .ok groups) ↔
      ∀ token ∈ comparedIn settings graph wanted scope,
        (Duplicate.comparedValue graph.resolutionOf token).IsWritable room := by
  rw [duplicatesIn]
  cases gathered : Duplicate.groupsIn room graph (comparedIn settings graph wanted scope) with
  | error fault =>
    refine iff_of_false nofun fun writes => ?_
    cases gathered.symm.trans (Duplicate.groupsIn_eq_ok_iff.mpr ⟨writes, rfl⟩)
  | ok groups => exact iff_of_true ⟨_, rfl⟩ (Duplicate.groupsIn_eq_ok_iff.mp gathered).1

theorem Serves.candidates_eq (serves : session.Serves settings graph) (scope : Option Value) :
    session.candidates scope = candidatesIn settings graph scope := by
  cases scope with
  | some tree => rw [candidates, serves.settings_eq, candidatesIn]
  | none => rw [candidates, serves.graph_eq, candidatesIn]

/-- The types that are compared, which without any are those of the settings. -/
def typesIn (settings : Settings) (types : Option Datum) : Datum :=
  (types.filter Datum.isTruthy).getD settings.duplicateTypes

theorem Serves.typesToCompare_eq (serves : session.Serves settings graph) (types : Option Datum) :
    session.typesToCompare types = typesIn settings types := by
  rw [typesToCompare, serves.settings_eq, typesIn]

theorem gives_findDuplicates_of_find {room : Nat} {scope : Option Value} {types : Option Datum}
    {result : Except Duplicate.Error (List DuplicateGroup)}
    (finds : (Duplicate.find room (candidatesIn settings graph scope)
      (typesIn settings types)).Gives (Resolver.Serves graph) result) :
    (findDuplicates room scope types).Gives (Serves settings graph)
      (result.mapError SessionError.ofDuplicate) := by
  unfold findDuplicates
  apply Action.gives_state_bind
  intro session serves
  obtain ⟨resolver, held, -⟩ := serves.resolver
  rw [held, serves.typesToCompare_eq, serves.candidates_eq]
  apply (Action.gives_report _).bind
  exact gives_withResolver _ _ finds

theorem gives_findDuplicates_of_not_set {types : Option Datum}
    (given : (typesIn settings types).members? = none) (room : Nat) (scope : Option Value) :
    (findDuplicates room scope types).Gives (Serves settings graph) (.error .typesNotASet) :=
  gives_findDuplicates_of_find (Duplicate.gives_find_of_not_set given room _)

section

variable (agrees : ∀ path, (graph.resolutionOf path).agrees (graph.resolutionOf path) = true)

include agrees

theorem gives_findDuplicates {wanted : List Datum} {types : Option Datum}
    (given : (typesIn settings types).members? = some wanted) (room : Nat)
    (scope : Option Value) :
    (findDuplicates room scope types).Gives (Serves settings graph)
      ((duplicatesIn room settings graph wanted scope).mapError .unwritable) := by
  have finds := Duplicate.gives_find agrees given room (candidatesIn settings graph scope)
  have gives := gives_findDuplicates_of_find finds
  rw [duplicatesIn, comparedIn]
  cases found : Duplicate.groupsIn room graph ((candidatesIn settings graph scope).filter
      (Duplicate.isCandidate wanted)) <;> rwa [found] at gives

end

/-- A report with some duplicates, the rest told from the graph. -/
def reportOf (settings : Settings) (graph : Graph) (groups : List DuplicateGroup)
    (now : Timestamp) (trees : List Value) (sources : List String) : Report where
  sources := sources
  results := graph.resolutions
  cycles := graph.cycles.map CycleWarning.ofChain
  duplicates := groups
  skipped := graph.skipped
  dangling := graph.dangling
  unknownTypes := unknownTypes settings trees
  generatedAt := now

/-- Every value that a run compares can be written. -/
def CanCompare (room : Nat) (settings : Settings) (trees : List Value) (scope : Option Value) :
    Prop :=
  let graph := Graph.build settings trees
  ∀ wanted, settings.duplicateTypes.members? = some wanted →
    ∀ token ∈ comparedIn settings graph wanted scope,
      (Duplicate.comparedValue graph.resolutionOf token).IsWritable room

theorem canCompare_of_values {room : Nat} {settings : Settings} {trees : List Value}
    {scope : Option Value} {wanted : List Datum} {values : List Value}
    (given : settings.duplicateTypes.members? = some wanted)
    (compared : (comparedIn settings (Graph.build settings trees) wanted scope).map
      (Duplicate.comparedValue (Graph.build settings trees).resolutionOf) = values)
    (writes : ∀ value ∈ values, value.IsWritable room) : CanCompare room settings trees scope := by
  intro other given'
  obtain rfl := Option.some.inj (given.symm.trans given')
  subst compared
  exact List.forall_mem_map.mp writes

/-- What a run comes to. -/
def reportIn (room : Nat) (settings : Settings) (wanted : List Datum) (now : Timestamp)
    (trees : List Value) (sources : List String) (scope : Option Value) :
    Except SessionError Report :=
  let graph := Graph.build settings trees
  ((duplicatesIn room settings graph wanted scope).map fun groups =>
    reportOf settings graph groups now trees sources).mapError .unwritable

theorem reportIn_eq_ok_iff {room : Nat} {settings : Settings} {wanted : List Datum}
    {now : Timestamp} {trees : List Value} {sources : List String} {scope : Option Value}
    {report : Report} :
    reportIn room settings wanted now trees sources scope = .ok report ↔
      ∃ groups, duplicatesIn room settings (Graph.build settings trees) wanted scope = .ok groups ∧
        reportOf settings (Graph.build settings trees) groups now trees sources = report := by
  rw [reportIn]
  cases duplicatesIn room settings (Graph.build settings trees) wanted scope <;>
    simp [Except.map, Except.mapError]

theorem exists_reportIn_iff {room : Nat} {settings : Settings} {wanted : List Datum}
    (given : settings.duplicateTypes.members? = some wanted) {now : Timestamp}
    {trees : List Value} {sources : List String} {scope : Option Value} :
    (∃ report, reportIn room settings wanted now trees sources scope = .ok report) ↔
      CanCompare room settings trees scope := by
  simp only [reportIn_eq_ok_iff, CanCompare, given, Option.some.injEq, forall_eq',
    ← exists_duplicatesIn_iff]
  exact ⟨fun ⟨_, groups, found, _⟩ => ⟨groups, found⟩,
    fun ⟨groups, found⟩ => ⟨_, groups, found, rfl⟩⟩

theorem reportIn_eq_error {room : Nat} {settings : Settings} {wanted : List Datum}
    {now : Timestamp} {trees : List Value} {sources : List String} {scope : Option Value}
    {error : SessionError}
    (failed : reportIn room settings wanted now trees sources scope = .error error) :
    ∃ fault, error = .unwritable fault := by
  rw [reportIn] at failed
  cases found : duplicatesIn room settings (Graph.build settings trees) wanted scope with
  | error fault =>
    rw [found] at failed
    exact ⟨fault, (Except.error.inj failed).symm⟩
  | ok groups =>
    rw [found] at failed
    cases failed

theorem ends_run {wanted : List Datum}
    (given : session.settings.duplicateTypes.members? = some wanted) (room : Nat)
    (now : Timestamp) {trees : List Value} (h : ∀ tree ∈ trees, tree.isWellKeyed = true)
    (sources : List String) (scope : Option Value) :
    ∃ after, after.Serves session.settings (Graph.build session.settings trees) ∧
      (run room now trees sources scope).Ends session
        (reportIn room session.settings wanted now trees sources scope) after := by
  have agrees := agrees_resolutionOf_build session.settings h
  obtain ⟨built, serves, builds⟩ := ends_build trees session
  unfold run
  apply (Action.ends_state session).bind_exists
  apply (Action.ends_report _ session).bind_exists
  apply builds.bind_exists
  -- From here on the session serves the graph, and nothing that is left to do changes that.
  refine (?_ : Action.Gives _ (Serves session.settings _) _) built serves
  apply (Action.gives_report _).bind
  apply (gives_withResolver _ _ (Resolver.gives_resolveAll agrees)).bind
  apply (Action.gives_report _).bind
  apply (Action.gives_report _).bind
  have finds := gives_findDuplicates agrees (show (typesIn _ none).members? = _ from given) room
    scope
  rw [reportIn]
  cases found : duplicatesIn room session.settings (Graph.build session.settings trees) wanted
      scope with
  | error fault =>
    rw [found] at finds
    exact finds.bind_error _
  | ok groups =>
    rw [found] at finds
    exact finds.bind ((Action.gives_report _).map _)

end DesignTokens.Session
