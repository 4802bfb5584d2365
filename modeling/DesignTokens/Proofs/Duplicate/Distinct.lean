import DesignTokens.Proofs.Action
import DesignTokens.Proofs.Entries.Gather
import DesignTokens.Proofs.Graph.Built
import DesignTokens.Proofs.Tree.Paths
import DesignTokens.Session
import Mathlib.Computability.Primrec.List
import Mathlib.Data.List.Permutation

/-! Groups of duplicates among the tokens of a tree with plain keys: no group names one token
twice, whatever the resolver that compares them answers. -/
namespace DesignTokens

namespace Duplicate

/-- Grouping gathers the path of every token under some key. -/
theorem exists_pairs_of_foldlM {room : Nat} {tokens : List Token}
    {groups after : Entries (List String)} {resolver : Resolver}
    (ends : ((tokens.foldlM (addToGroup room) groups).run resolver).result = .ok after) :
    ∃ pairs : List (String × String), pairs.map Prod.snd = tokens.map Token.path ∧
      after = pairs.foldl (fun groups pair => Entries.gather pair.1 pair.2 groups) groups := by
  induction tokens generalizing groups resolver with
  | nil => exact ⟨[], rfl, (Except.ok.inj ends).symm⟩
  | cons token rest ih =>
    rw [List.foldlM_cons] at ends
    obtain ⟨between, first, later⟩ := Action.ok_of_bind ends
    obtain ⟨found, -, keyed⟩ := Action.ok_of_bind first
    obtain ⟨key, -, gathered⟩ := Action.ok_of_bind keyed
    obtain rfl := Except.ok.inj gathered
    obtain ⟨pairs, paths, rfl⟩ := ih later
    exact ⟨(key, token.path) :: pairs, by rw [List.map_cons, paths]; rfl, rfl⟩

theorem nodup_itemsUnder {pairs : List (String × String)} (distinct : (pairs.map Prod.snd).Nodup)
    (key : String) : (Entries.itemsUnder key pairs).Nodup :=
  distinct.sublist (List.filter_sublist.map Prod.snd)

theorem nodup_of_mem_ranked {pairs : List (String × String)}
    (distinct : (pairs.map Prod.snd).Nodup) {group : DuplicateGroup}
    (member : group ∈ ranked
      (pairs.foldl (fun groups pair => Entries.gather pair.1 pair.2 groups) [])) :
    group.tokens.Nodup := by
  rw [ranked, List.mem_mergeSort, List.mem_map] at member
  obtain ⟨entry, kept, rfl⟩ := member
  have gathered := (List.mem_filter.mp kept).1
  rw [Entries.foldl_gather_eq] at gathered
  obtain ⟨key, -, rfl⟩ := List.mem_map.mp gathered
  exact nodup_itemsUnder distinct key

theorem nodup_of_find {room : Nat} {candidates : List Token} {types : Datum} {resolver : Resolver}
    {groups : List DuplicateGroup} (distinct : (candidates.map Token.path).Nodup)
    (found : ((find room candidates types).run resolver).result = .ok groups) :
    ∀ group ∈ groups, group.tokens.Nodup := by
  unfold find at found
  split at found
  · obtain ⟨after, grouped, ends⟩ := Action.ok_of_bind found
    obtain ⟨pairs, paths, rfl⟩ := exists_pairs_of_foldlM grouped
    obtain rfl := Except.ok.inj ends
    have kept : (pairs.map Prod.snd).Nodup := by
      rw [paths]
      exact distinct.sublist (List.filter_sublist.map Token.path)
    exact fun group member => nodup_of_mem_ranked kept member
  · cases found

end Duplicate

/-- The search of a session is one with the resolver that it built. -/
theorem Session.find_of_findDuplicates {room : Nat} {session : Session} {tree : Value}
    {types : Option Datum} {groups : List DuplicateGroup}
    (found : ((findDuplicates room (some tree) types).run session).result = .ok groups) :
    ∃ resolver, session.resolver = some resolver ∧
      ((Duplicate.find room (Tree.tokens session.settings tree) (session.typesToCompare types)).run
        resolver).result = .ok groups := by
  obtain ⟨settings, _ | resolver⟩ := session
  · cases found
  · refine ⟨resolver, rfl, ?_⟩
    have ran : ((findDuplicates room (some tree) types).run ⟨settings, some resolver⟩).result =
        ((Duplicate.find room (Tree.tokens settings tree)
          (typesToCompare ⟨settings, some resolver⟩ types)).run resolver).result.mapError
            SessionError.ofDuplicate := by
      simp [findDuplicates, withResolver, candidates, Action.run_absorb]
    rw [ran] at found
    cases ended : ((Duplicate.find room (Tree.tokens settings tree)
        (typesToCompare ⟨settings, some resolver⟩ types)).run resolver).result with
    | error e =>
      rw [ended] at found
      cases found
    | ok others =>
      rw [ended] at found
      exact congrArg Except.ok (Except.ok.inj found)

/-- In a tree without a slash in its keys no token is a duplicate of itself, neither among its
own tokens nor among those that a session compares in its scope. -/
theorem nodup_tokens_of_plain (room : Nat) (session : Session) {tree : Value}
    (h : tree.isWellKeyed = true) (plain : Tree.hasPlainKeys session.settings tree = true)
    (types : Option Datum) :
    (∀ (allTokens : Option Value) (groups : List DuplicateGroup),
      detectDuplicates room session.settings tree allTokens types = .ok groups →
        ∀ group ∈ groups, group.tokens.Nodup) ∧
      ∀ groups : List DuplicateGroup,
        ((Session.findDuplicates room (some tree) types).run session).result = .ok groups →
          ∀ group ∈ groups, group.tokens.Nodup := by
  have distinct := Tree.nodup_paths_tokens h plain
  refine ⟨fun allTokens groups found => Duplicate.nodup_of_find distinct found, ?_⟩
  intro groups found
  obtain ⟨resolver, -, ends⟩ := Session.find_of_findDuplicates found
  exact Duplicate.nodup_of_find distinct ends

/-- Two groups that hold one color each. -/
def twoThemes : Value :=
  .object [
    ("day", .object [("ink", .object [("$type", .str "color"), ("$value", .str "#36f")])]),
    ("dusk", .object [("ink", .object [("$type", .str "color"), ("$value", .str "#36f")])])]

theorem nodup_tokens_twoThemes :
    twoThemes.isWellKeyed = true ∧ Tree.hasPlainKeys {} twoThemes = true ∧
      detectDuplicates 0 {} twoThemes none none =
        .ok [⟨"#36f", ["day/ink", "dusk/ink"]⟩] ∧
      (["day/ink", "dusk/ink"] : List String).Nodup := by
  have h : twoThemes.isWellKeyed = true := by decide
  have plain : Tree.hasPlainKeys {} twoThemes = true := by decide
  have found : detectDuplicates 0 {} twoThemes none none =
      .ok [⟨"#36f", ["day/ink", "dusk/ink"]⟩] := by
    rw [detectDuplicates, Option.getD_none, Option.getD_none, twoThemes, Graph.build_object,
      Tree.tokens, Tree.walk_object]
    cbv
  have distinct := (nodup_tokens_of_plain 0 { settings := {} } h plain none).1 none _ found
  exact ⟨h, plain, found, distinct _ (List.mem_singleton_self _)⟩

/-- A key with a slash reads like a group and the token in it. -/
def slashedKey : Value :=
  .object [
    ("a/b", .object [("$type", .str "color"), ("$value", .str "#36f")]),
    ("a", .object [("b", .object [("$type", .str "color"), ("$value", .str "#36f")])])]

/-- A slash in a key makes a token a duplicate of itself. -/
theorem repeated_token_slashedKey :
    detectDuplicates 0 {} slashedKey none none = .ok [⟨"#36f", ["a/b", "a/b"]⟩] ∧
      ¬ (["a/b", "a/b"] : List String).Nodup := by
  constructor
  · rw [detectDuplicates, Option.getD_none, Option.getD_none, slashedKey, Graph.build_object,
      Tree.tokens, Tree.walk_object]
    cbv
  · decide

end DesignTokens
