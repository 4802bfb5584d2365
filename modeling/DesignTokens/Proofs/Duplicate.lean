import DesignTokens.Duplicate
import DesignTokens.Proofs.Fold
import DesignTokens.Proofs.Resolver.Serving
import DesignTokens.Proofs.Value.Key

/-! The search for duplicates ends with groups that depend on the graph and the candidates
only, unless it comes to a value that cannot be written. -/
namespace DesignTokens

theorem Datum.members?_ofTexts (names : List String) :
    (ofTexts names).members? = some (withoutRepeats (names.map str)) := by
  have hashable : (names.map str).all isMember = true := by
    rw [List.all_map]
    exact List.all_eq_true.mpr fun _ _ => rfl
  rw [ofTexts, members?, if_pos hashable]

namespace Duplicate

/-- The value that a token counts with: its own if what it leads to is not known. -/
def comparedValue (answer : String → Resolution) (token : Token) : Value :=
  if (answer token.path).status = .resolved then (answer token.path).value else token.value

theorem comparedOf_resolution? (graph : Graph) (token : Token) :
    comparedOf token.value (graph.resolution? token.path) =
      comparedValue graph.resolutionOf token := by
  rw [comparedValue, Graph.resolution?]
  cases known : graph.has token.path with
  | true =>
    rw [if_pos rfl, comparedOf, Resolution.isResolved]
    exact if_congr decide_eq_true_iff rfl rfl
  | false =>
    have absent : (graph.resolutionOf token.path).status = .missing := by
      rw [Graph.resolutionOf, answer_of_absent (Graph.node?_of_has_eq_false known)]
      rfl
    rw [absent]
    rfl

/-- The paths of the tokens, gathered under their keys. -/
def gatheredBy (key : Token → String) (tokens : List Token) : Entries (List String) :=
  tokens.foldl (fun groups token => Entries.gather (key token) token.path groups) []

/-- The groups with one token more, if its value has a key. -/
def gatheredIn (room : Nat) (graph : Graph) (groups : Entries (List String)) (token : Token) :
    Except Json.Unwritable (Entries (List String)) :=
  ((comparedValue graph.resolutionOf token).key room).map
    fun key => Entries.gather key token.path groups

def groupsIn (room : Nat) (graph : Graph) (tokens : List Token) :
    Except Json.Unwritable (Entries (List String)) :=
  tokens.foldlM (gatheredIn room graph) []

/-- There are groups if every value can be written, and then they are gathered by its text. -/
theorem groupsIn_eq_ok_iff {room : Nat} {graph : Graph} {tokens : List Token}
    {groups : Entries (List String)} :
    groupsIn room graph tokens = .ok groups ↔
      (∀ token ∈ tokens, (comparedValue graph.resolutionOf token).IsWritable room) ∧
        gatheredBy (fun token => (comparedValue graph.resolutionOf token).keyText) tokens =
          groups := by
  rw [groupsIn, gatheredBy]
  refine foldlM_eq_ok_iff fun groups token after => ?_
  exact Value.map_key_eq_ok_iff

theorem gives_find_of_not_set {types : Datum} (given : types.members? = none) (room : Nat)
    (candidates : List Token) {holds : Resolver → Prop} :
    (find room candidates types).Gives holds (.error .typesNotASet) := by
  unfold find
  rw [given]
  exact Action.gives_throw _

variable {graph : Graph}
  (agrees : ∀ path, (graph.resolutionOf path).agrees (graph.resolutionOf path) = true)

include agrees

theorem gives_resolveToken? (path : String) :
    (resolveToken? path).Gives (Resolver.Serves graph) (.ok (graph.resolution? path)) := by
  intro resolver serves
  obtain ⟨after, served, ends⟩ := Resolver.gives_resolveToken? agrees path resolver serves
  refine ⟨after, served, ?_⟩
  unfold resolveToken?
  apply (Action.ends_state resolver).bind
  dsimp only
  rw [serves.graph_eq, ends.state]
  exact (Action.ends_put _ _).bind (ends.absorb _ _)

theorem gives_addToGroup (room : Nat) (groups : Entries (List String)) (token : Token) :
    (addToGroup room groups token).Gives (Resolver.Serves graph)
      ((gatheredIn room graph groups token).mapError .unwritable) := by
  unfold addToGroup
  apply (gives_resolveToken? agrees token.path).bind
  dsimp only
  rw [comparedOf_resolution?]
  exact Action.gives_ofExcept_map _ _ _

theorem gives_find {types : Datum} {wanted : List Datum} (given : types.members? = some wanted)
    (room : Nat) (candidates : List Token) :
    (find room candidates types).Gives (Resolver.Serves graph)
      (((groupsIn room graph (candidates.filter (isCandidate wanted))).map ranked).mapError
        .unwritable) := by
  unfold find
  rw [given]
  have gives := (Action.gives_foldlM (gives_addToGroup agrees room)
    (candidates.filter (isCandidate wanted)) []).bind_each fun groups =>
      (Action.gives_report [.duplicatesFound (ranked groups).length]).map fun _ => ranked groups
  rw [foldlM_mapError, ← groupsIn] at gives
  cases found : groupsIn room graph (candidates.filter (isCandidate wanted)) <;>
    rwa [found] at gives

omit agrees

section

variable {settings : Settings} {tree : Value} {allTokens : Option Value} {types : Option Datum}
  {wanted : List Datum} (given : (types.getD settings.duplicateTypes).members? = some wanted)
  (h : (allTokens.getD tree).isWellKeyed = true)

include given h

theorem detectDuplicates_eq (room : Nat) :
    detectDuplicates room settings tree allTokens types =
      ((groupsIn room (Graph.build settings [allTokens.getD tree])
        ((Tree.tokens settings tree).filter (isCandidate wanted))).map ranked).mapError
          .unwritable := by
  have agrees := agrees_resolutionOf_build settings (List.forall_mem_singleton.mpr h)
  have serves := Resolver.serves_new (Graph.build settings [allTokens.getD tree])
    settings.memoize.isTruthy false
  obtain ⟨after, -, ends⟩ := gives_find agrees given room (Tree.tokens settings tree) _ serves
  exact ends.result

/-- Values that can be written are grouped by their texts. -/
theorem detectDuplicates_of_values {room : Nat} {values : List Value}
    (compared : ((Tree.tokens settings tree).filter (isCandidate wanted)).map (comparedValue
      (Graph.build settings [allTokens.getD tree]).resolutionOf) = values)
    (writes : ∀ value ∈ values, value.IsWritable room) :
    detectDuplicates room settings tree allTokens types =
      .ok (ranked (gatheredBy (fun token => (comparedValue
        (Graph.build settings [allTokens.getD tree]).resolutionOf token).keyText)
          ((Tree.tokens settings tree).filter (isCandidate wanted)))) := by
  subst compared
  rw [detectDuplicates_eq given h, groupsIn_eq_ok_iff.mpr ⟨List.forall_mem_map.mp writes, rfl⟩]
  rfl

end

end Duplicate

end DesignTokens
