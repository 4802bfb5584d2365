import DesignTokens.Proofs.Duplicate.Classes
import DesignTokens.Proofs.Value.Key

/-! The values of grouped tokens are equal up to the order of keys in objects, unless one is
text that spells the other. -/
namespace DesignTokens

namespace Duplicate

/-- Every search that ends with groups ends with those of the keys of its candidates. -/
private theorem groups_of_detect {room : Nat} {settings : Settings} {tree : Value}
    {allTokens : Option Value} {types : Option Datum}
    (h : (allTokens.getD tree).isWellKeyed = true) {groups : List DuplicateGroup}
    (found : detectDuplicates room settings tree allTokens types = .ok groups) :
    ∃ candidates : List Token, groups = ranked (gatheredBy (fun token => (comparedValue
      (Graph.build settings [allTokens.getD tree]).resolutionOf token).keyText) candidates) := by
  cases given : (types.getD settings.duplicateTypes).members? with
  | none =>
    have serves := Resolver.serves_new (Graph.build settings [allTokens.getD tree])
      settings.memoize.isTruthy false
    obtain ⟨after, -, ends⟩ := gives_find_of_not_set given room (Tree.tokens settings tree) _ serves
    cases ends.result.symm.trans found
  | some wanted =>
    rw [detectDuplicates_eq given h] at found
    cases gathered : groupsIn room (Graph.build settings [allTokens.getD tree])
        ((Tree.tokens settings tree).filter (isCandidate wanted)) with
    | error fault => rw [gathered] at found; contradiction
    | ok pairs =>
      rw [gathered] at found
      obtain ⟨-, rfl⟩ := groupsIn_eq_ok_iff.mp gathered
      exact ⟨_, (Except.ok.inj found).symm⟩

/-- A member that resolves puts the key of its value on the group. -/
theorem key_of_member {answer : String → Resolution} {candidates : List Token}
    {group : DuplicateGroup}
    (listed : group ∈ ranked (gatheredBy (fun token => (comparedValue answer token).keyText)
      candidates)) {path : String} (member : path ∈ group.tokens)
    (resolved : (answer path).status = .resolved) : (answer path).value.keyText = group.value := by
  obtain ⟨tokens, -⟩ := ((areClasses_ranked _ candidates).mem_iff group).mp listed
  rw [tokens] at member
  obtain ⟨token, -, key, rfl⟩ := (mem_classOf _ candidates).mp member
  rw [comparedValue, if_pos resolved] at key
  exact key

end Duplicate

/-- Of two tokens in one group that both resolve, the values are alike, or one is text that
spells the other out. -/
theorem grouped_alike_or_spelled {room : Nat} {settings : Settings} {tree : Value}
    {allTokens : Option Value} {types : Option Datum}
    (h : (allTokens.getD tree).isWellKeyed = true) {groups : List DuplicateGroup}
    (found : detectDuplicates room settings tree allTokens types = .ok groups)
    {group : DuplicateGroup} (listed : group ∈ groups) {path path' : String}
    (member : path ∈ group.tokens) (member' : path' ∈ group.tokens) {memoize : Bool}
    {outcome outcome' : Resolution}
    (asked : ((Resolver.resolve path).run
      { graph := Graph.build settings [allTokens.getD tree], memoize }).result = .ok outcome)
    (asked' : ((Resolver.resolve path').run
      { graph := Graph.build settings [allTokens.getD tree], memoize }).result = .ok outcome')
    (resolved : outcome.status = .resolved) (resolved' : outcome'.status = .resolved) :
    outcome.value.alike outcome'.value = true ∨
      outcome.value.spells outcome'.value ∨ outcome'.value.spells outcome.value := by
  have trees : ∀ other ∈ [allTokens.getD tree], other.isWellKeyed = true :=
    List.forall_mem_singleton.mpr h
  obtain rfl := Except.ok.inj ((Resolver.result_resolve _ memoize path).symm.trans asked)
  obtain rfl := Except.ok.inj ((Resolver.result_resolve _ memoize path').symm.trans asked')
  obtain ⟨candidates, rfl⟩ := Duplicate.groups_of_detect h found
  refine Value.alike_or_spells_of_keyText (isWellKeyed_resolution trees [] path none)
    (isWellKeyed_resolution trees [] path' none) ?_
  rw [Duplicate.key_of_member listed member resolved,
    Duplicate.key_of_member listed member' resolved']

/-- One value with its keys in two orders, and an alias of it. -/
def mixedKeys : Value :=
  .object [
    ("a", .object [("$type", .str "color"),
      ("$value", .object [("on", .bool true), ("hex", .str "#36f")])]),
    ("b", .object [("$type", .str "color"),
      ("$value", .object [("hex", .str "#36f"), ("on", .bool true)])]),
    ("c", .object [("$type", .str "color"), ("$value", .str "{a}")])]

theorem grouped_mixedKeys :
    mixedKeys.isWellKeyed = true ∧
      detectDuplicates 1 {} mixedKeys none none =
        .ok [⟨"\x7b\"hex\": \"#36f\", \"on\": true\x7d", ["a", "b", "c"]⟩] ∧
      ∃ outcome outcome' : Resolution,
        ((Resolver.resolve "b").run
          { graph := Graph.build {} [mixedKeys] }).result = .ok outcome ∧
        ((Resolver.resolve "c").run
          { graph := Graph.build {} [mixedKeys] }).result = .ok outcome' ∧
        outcome.status = .resolved ∧ outcome'.status = .resolved ∧
        (outcome.value.alike outcome'.value = true ∨
          outcome.value.spells outcome'.value ∨ outcome'.value.spells outcome.value) := by
  have h : mixedKeys.isWellKeyed = true := by decide
  have found : detectDuplicates 1 {} mixedKeys none none =
      .ok [⟨"\x7b\"hex\": \"#36f\", \"on\": true\x7d", ["a", "b", "c"]⟩] := by
    rw [detectDuplicates, Option.getD_none, Option.getD_none, mixedKeys, Graph.build_object,
      Tree.tokens, Tree.walk_object]
    cbv
  have asked : ((Resolver.resolve "b").run { graph := Graph.build {} [mixedKeys] }).result =
      .ok ⟨"b", .resolved, .object [("hex", .str "#36f"), ("on", .bool true)]⟩ := by
    rw [mixedKeys, Graph.build_object]
    cbv
  have asked' : ((Resolver.resolve "c").run { graph := Graph.build {} [mixedKeys] }).result =
      .ok ⟨"c", .resolved, .object [("on", .bool true), ("hex", .str "#36f")]⟩ := by
    rw [mixedKeys, Graph.build_object]
    cbv
  exact ⟨h, found, _, _, asked, asked', rfl, rfl,
    @grouped_alike_or_spelled 1 {} mixedKeys none none h _ found _ (List.mem_singleton_self _) "b"
      "c"
      (by decide) (by decide) true _ _ asked asked' rfl rfl⟩

/-- A number and its digits as text. -/
def numberAndText : Value :=
  .object [
    ("a", .object [("$type", .str "color"), ("$value", .int 1)]),
    ("b", .object [("$type", .str "color"), ("$value", .str "1")])]

/-- A token is grouped with one of another kind that spells its value out. -/
theorem grouped_unlike_numberAndText :
    detectDuplicates 0 {} numberAndText none none = .ok [⟨"1", ["a", "b"]⟩] ∧
      ((Resolver.resolve "a").run { graph := Graph.build {} [numberAndText] }).result =
        .ok ⟨"a", .resolved, .int 1⟩ ∧
      ((Resolver.resolve "b").run { graph := Graph.build {} [numberAndText] }).result =
        .ok ⟨"b", .resolved, .str "1"⟩ ∧
      (Value.int 1).alike (.str "1") = false := by
  refine ⟨?_, ?_, ?_, by decide⟩
  · have given : (Option.getD none ({} : Settings).duplicateTypes).members? =
        some [.str "color"] := Datum.members?_ofTexts ["color"]
    have compared : ((Tree.tokens {} numberAndText).filter (Duplicate.isCandidate
        [.str "color"])).map (Duplicate.comparedValue
          (Graph.build {} [Option.getD none numberAndText]).resolutionOf) = [.int 1, .str "1"] := by
      rw [Option.getD_none, numberAndText, Graph.build_object, Tree.tokens, Tree.walk_object]
      decide +kernel
    rw [Duplicate.detectDuplicates_of_values given (by decide) compared (by decide +kernel),
      Option.getD_none, numberAndText, Graph.build_object, Tree.tokens, Tree.walk_object]
    cbv
  · rw [numberAndText, Graph.build_object]
    cbv
  · rw [numberAndText, Graph.build_object]
    cbv

end DesignTokens
