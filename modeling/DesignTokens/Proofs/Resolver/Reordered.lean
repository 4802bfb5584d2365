import DesignTokens.Proofs.Cycle.Complete
import DesignTokens.Proofs.Graph.Layers
import DesignTokens.Proofs.Resolver.History

/-! Trees in another order. As long as no path is declared twice, the order of the trees is
the order of the graph and nothing else. -/
namespace DesignTokens

/-- Among distinct paths a token is found wherever it stands. -/
theorem find?_path_eq_some_iff {tokens : List Token} (distinct : (tokens.map Token.path).Nodup)
    {path : String} {token : Token} :
    tokens.find? (·.path = path) = some token ↔ token ∈ tokens ∧ token.path = path := by
  constructor
  · intro found
    have named := List.find?_some found
    rw [decide_eq_true_iff] at named
    exact ⟨List.mem_of_find?_eq_some found, named⟩
  · rintro ⟨member, rfl⟩
    cases found : tokens.find? (·.path = token.path) with
    | none => exact absurd (decide_eq_true rfl) (List.find?_eq_none.mp found token member)
    | some other =>
      have named := List.find?_some found
      rw [decide_eq_true_iff] at named
      rw [List.inj_on_of_nodup_map distinct (List.mem_of_find?_eq_some found) member named]

theorem find?_path_perm {tokens others : List Token} (perm : tokens.Perm others)
    (distinct : (tokens.map Token.path).Nodup) (path : String) :
    tokens.find? (·.path = path) = others.find? (·.path = path) := by
  have distinct' : (others.map Token.path).Nodup := (perm.map Token.path).nodup_iff.mp distinct
  apply Option.ext
  intro token
  rw [find?_path_eq_some_iff distinct, find?_path_eq_some_iff distinct', perm.mem_iff]

namespace Graph

theorem node?_build_perm {settings : Settings} {trees others : List Value}
    (perm : trees.Perm others)
    (distinct : ((declarations settings trees).map Token.path).Nodup) (path : String) :
    (build settings trees).node? path = (build settings others).node? path := by
  have reordered : (declarations settings trees).reverse.Perm
      (declarations settings others).reverse :=
    (List.reverse_perm _).trans ((perm.flatMap_right _).trans (List.reverse_perm _).symm)
  have distinct : ((declarations settings trees).reverse.map Token.path).Nodup := by
    rwa [List.map_reverse, List.nodup_reverse]
  rw [node?_build_eq, node?_build_eq, find?_path_perm reordered distinct]

section

variable {graph other : Graph} (same : ∀ path, graph.node? path = other.node? path)

include same

theorem has_of_same (path : String) : graph.has path = other.has path :=
  congrArg Option.isSome (same path)

theorem refers_of_same : graph.Refers = other.Refers := by
  funext source target
  rw [Refers, Refers, referencesOf_eq, referencesOf_eq, same]

theorem resolutionOf_of_same (path : String) :
    graph.resolutionOf path = other.resolutionOf path :=
  AgreesFrom.resolutionOf_eq fun goal _ => .of_node?_eq (same goal)

theorem dangles_of_same (source target : String) :
    graph.Dangles source target ↔ other.Dangles source target := by
  rw [Dangles, Dangles, refers_of_same same, has_of_same same]

theorem hasCycles_of_same : graph.hasCycles = other.hasCycles := by
  rw [Bool.eq_iff_iff, Cycle.hasCycles_iff, Cycle.hasCycles_iff]
  simp only [OnCycle, refers_of_same same]

end

end Graph

namespace Resolver

/-- Two graphs that differ at most in the order of their tokens. -/
structure Alike (graph other : Graph) : Prop where
  node : ∀ path, graph.node? path = other.node? path
  /-- Resolvers of the two answer alike, whatever was asked before. -/
  answers : ∀ (memoize memoize' verify verify' : Bool) (calls calls' : List Call) (path : String),
    ∃ outcome,
      ((resolve path).run (afterAll { graph, memoize, verify } calls)).result = .ok outcome ∧
      ((resolve path).run (afterAll
        { graph := other, memoize := memoize', verify := verify' } calls')).result = .ok outcome
  dangling : ∀ source target,
    (target, source) ∈ graph.dangling.spread ↔ (target, source) ∈ other.dangling.spread
  hasCycles : graph.hasCycles = other.hasCycles

/-- Sources that declare no path twice may be given in any order. -/
theorem alike_of_perm (settings : Settings) {trees others : List Value} (perm : trees.Perm others)
    (h : ∀ tree ∈ trees, tree.isWellKeyed = true)
    (distinct : ((Graph.declarations settings trees).map Token.path).Nodup) :
    Alike (Graph.build settings trees) (Graph.build settings others) where
  node := Graph.node?_build_perm perm distinct
  answers memoize memoize' verify verify' calls calls' path := by
    have h' : ∀ tree ∈ others, tree.isWellKeyed = true :=
      fun tree member => h tree (perm.mem_iff.mpr member)
    have same := Graph.resolutionOf_of_same (Graph.node?_build_perm perm distinct) path
    refine ⟨_, result_resolve_afterAll (agrees_resolutionOf_build settings h) memoize verify calls
      path, ?_⟩
    rw [same]
    exact result_resolve_afterAll (agrees_resolutionOf_build settings h') memoize' verify' calls'
      path
  dangling source target := by
    rw [Graph.mem_spread_dangling, Graph.mem_spread_dangling]
    exact Graph.dangles_of_same (Graph.node?_build_perm perm distinct) source target
  hasCycles := Graph.hasCycles_of_same (Graph.node?_build_perm perm distinct)

/-- A token of another tree, a token that refers to itself, and one that is nowhere, all
referred to. -/
def room : Value :=
  let token (value : Value) := Value.object [("$type", .str "other"), ("$value", value)]
  .object [
    ("wall", token (.str "\x7bbase\x7d")),
    ("door", token (.list [.str "\x7bdoor\x7d", .str "\x7bnowhere\x7d"]))]

theorem alike_room_palette :
    [room, palette].Perm [palette, room] ∧
      (∀ tree ∈ [room, palette], tree.isWellKeyed = true) ∧
      ((Graph.declarations {} [room, palette]).map Token.path).Nodup ∧
      ∃ outcome,
        ((resolve "wall").run { graph := Graph.build {} [room, palette] }).result = .ok outcome ∧
        ((resolve "wall").run (afterAll
          { graph := Graph.build {} [palette, room], verify := true } [.resolve "door"])).result =
            .ok outcome ∧
        (("nowhere", "door") ∈ (Graph.build {} [room, palette]).dangling.spread ↔
          ("nowhere", "door") ∈ (Graph.build {} [palette, room]).dangling.spread) := by
  have perm : [room, palette].Perm [palette, room] := .swap ..
  have h : ∀ tree ∈ [room, palette], tree.isWellKeyed = true := by decide
  have paths : (Graph.declarations {} [room, palette]).map Token.path =
      ["wall", "door", "border", "accent", "base"] := by
    rw [Graph.declarations, List.flatMap_cons, List.flatMap_singleton, Tree.tokens, Tree.tokens,
      room, palette, Tree.walk_object, Tree.walk_object]
    rfl
  have distinct : ((Graph.declarations {} [room, palette]).map Token.path).Nodup := by
    rw [paths]
    decide
  have alike := alike_of_perm {} perm h distinct
  obtain ⟨outcome, here, there⟩ := alike.answers true true false true [] [.resolve "door"] "wall"
  exact ⟨perm, h, distinct, outcome, here, there, alike.dangling "door" "nowhere"⟩

end Resolver

end DesignTokens
