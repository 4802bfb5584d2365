import DesignTokens.Proofs.Resolution.Dereferenced
import DesignTokens.Proofs.Resolution.Local
import DesignTokens.Proofs.Resolver.Cache
import Mathlib.Computability.Primrec.List
import Mathlib.Data.List.Permutation

/-! What a resolver answers after any calls. A resolved value holds no reference, and an
answer depends on nothing but the tokens that its path leads to. -/
namespace DesignTokens.Resolver

/-- An alias and a composite over it. The alias is declared in the extensions. -/
def palette : Value :=
  .object [
    ("border", .object [("$type", .str "border"),
      ("$value", .object [("color", .str "\x7baccent\x7d"),
        ("sides", .list [.int 1, .str "\x7bbase\x7d"])])]),
    ("accent", .object [("$type", .str "color"), ("$value", .str "#000"),
      ("$extensions", .object [("com.figma.aliasData",
        .object [("targetVariableName", .str "base")])])]),
    ("base", .object [("$type", .str "color"), ("$value", .str "#36f")])]

/-- The graph of the palette, written out. -/
theorem build_palette :
    Graph.build {} [palette] =
      ⟨[("border", ⟨⟨"border", "border", .object [("color", .str "\x7baccent\x7d"),
            ("sides", .list [.int 1, .str "\x7bbase\x7d"])], [], none⟩,
          .composite (.object [("color", .str "\x7baccent\x7d"),
              ("sides", .list [.int 1, .str "\x7bbase\x7d"])])
            ⟨[.key "color"], .ofPath "accent"⟩ [⟨[.key "sides", .index 1], .ofPath "base"⟩]⟩),
        ("accent", ⟨⟨"accent", "color", .str "#000", [("com.figma.aliasData",
            .object [("targetVariableName", .str "base")])], none⟩, .alias (.ofPath "base")⟩),
        ("base", ⟨⟨"base", "color", .str "#36f", [], none⟩, .concrete (.str "#36f")⟩)],
        [], by decide⟩ := by
  rw [palette, Graph.build_object]
  rfl

/-- Whatever was asked before, a request comes to an answer, and a resolved one is no
reference and holds none at any place: it has no sites and counts as data of its own. -/
theorem resolved_value_dereferenced (settings : Settings) (trees : List Value)
    (h : ∀ tree ∈ trees, tree.isWellKeyed = true) (memoize verify : Bool) (calls : List Call)
    (path : String) :
    let graph := Graph.build settings trees
    ∃ outcome,
      ((resolve path).run (afterAll { graph, memoize, verify } calls)).result = .ok outcome ∧
      (outcome.status = .resolved →
        Reference.ofValue? outcome.value = none ∧
        (∀ location item, outcome.value.get location = .ok item →
          Reference.ofValue? item = none) ∧
        outcome.value.sites = [] ∧
        Content.classify outcome.value [] = .concrete outcome.value) := by
  intro graph
  refine ⟨graph.resolutionOf path,
    result_resolve_afterAll (agrees_resolutionOf_build settings h) memoize verify calls path, ?_⟩
  intro resolves
  have plain : (graph.resolutionOf path).value.references = [] :=
    (Graph.isClassified_build settings h).references_of_resolved resolves
  refine ⟨Value.ofValue?_of_references_nil plain, ?_, Value.sites_of_references_nil plain,
    Value.classify_of_references_nil plain⟩
  intro location item found
  exact Value.ofValue?_of_references_nil (Value.references_of_get plain found)

theorem border_dereferenced :
    (∀ tree ∈ [palette], tree.isWellKeyed = true) ∧
      ∃ outcome,
        ((resolve "border").run (afterAll { graph := Graph.build {} [palette], verify := true }
            [.resolve "accent", .clearCache, .resolveAll])).result = .ok outcome ∧
        outcome.status = .resolved ∧
        outcome.value.get [.key "sides", .index 1] = .ok (.str "#36f") ∧
        Reference.ofValue? (.str "#36f") = none ∧ outcome.value.sites = [] := by
  have h : ∀ tree ∈ [palette], tree.isWellKeyed = true := by decide
  have computed : ((resolve "border").run
      (afterAll { graph := Graph.build {} [palette], verify := true }
        [.resolve "accent", .clearCache, .resolveAll])).result =
      .ok ⟨"border", .resolved,
        .object [("color", .str "#36f"), ("sides", .list [.int 1, .str "#36f"])]⟩ := by
    rw [build_palette]
    cbv
  obtain ⟨outcome, ends, dereferenced⟩ := resolved_value_dereferenced {} [palette] h true true
    [.resolve "accent", .clearCache, .resolveAll] "border"
  obtain rfl := Except.ok.inj (computed.symm.trans ends)
  obtain ⟨-, inside, sites, -⟩ := dereferenced rfl
  have held : Value.get (.object [("color", .str "#36f"), ("sides", .list [.int 1, .str "#36f"])])
      [.key "sides", .index 1] = .ok (.str "#36f") := by rfl
  exact ⟨h, _, ends, rfl, held, inside _ _ held, sites⟩

/-- Two resolvers give one answer for a path when their graphs agree wherever it leads in the
first of them, whatever other tokens these hold and whatever was asked before. -/
theorem resolve_local (settings settings' : Settings) (trees trees' : List Value)
    (h : ∀ tree ∈ trees, tree.isWellKeyed = true) (h' : ∀ tree ∈ trees', tree.isWellKeyed = true)
    (memoize memoize' verify verify' : Bool) (calls calls' : List Call) (path : String)
    (agrees : ∀ goal, (Graph.build settings trees).Reaches path goal →
      (Graph.build settings trees).AgreesAt (Graph.build settings' trees') goal) :
    ∃ outcome,
      ((resolve path).run (afterAll
        { graph := Graph.build settings trees, memoize, verify } calls)).result = .ok outcome ∧
      ((resolve path).run (afterAll
        { graph := Graph.build settings' trees', memoize := memoize', verify := verify' }
          calls')).result = .ok outcome := by
  have here := result_resolve_afterAll (agrees_resolutionOf_build settings h) memoize verify calls
    path
  have there := result_resolve_afterAll (agrees_resolutionOf_build settings' h') memoize' verify'
    calls' path
  rw [← Graph.AgreesFrom.resolutionOf_eq agrees] at there
  exact ⟨_, here, there⟩

/-- Tokens in another order, one of them on a cycle, with the value of another changed. -/
def repainted : Value :=
  .object [
    ("loop", .object [("$type", .str "color"), ("$value", .str "\x7bloop\x7d")]),
    ("base", .object [("$type", .str "color"), ("$value", .str "#36f")]),
    ("border", .object [("$type", .str "border"), ("$value", .str "none")]),
    ("accent", .object [("$type", .str "color"), ("$value", .str "#000"),
      ("$extensions", .object [("com.figma.aliasData",
        .object [("targetVariableName", .str "base")])])])]

theorem accent_local :
    (∀ goal, (Graph.build {} [palette]).Reaches "accent" goal →
      (Graph.build {} [palette]).AgreesAt (Graph.build {} [repainted]) goal) ∧
      ∃ outcome,
        ((resolve "accent").run (afterAll { graph := Graph.build {} [palette] }
          [.resolve "border"])).result = .ok outcome ∧
        ((resolve "accent").run (afterAll { graph := Graph.build {} [repainted], memoize := false }
          [.resolveAll])).result = .ok outcome := by
  have agrees : (Graph.build {} [palette]).AgreesFrom (Graph.build {} [repainted]) "accent" := by
    intro goal reached
    have among : goal ∈ ["accent", "base"] := by
      refine reached.mem_of_closed ?_ (by decide)
      have first : (Graph.build {} [palette]).referencesOf "accent" = ["base"] := by
        rw [build_palette]
        cbv
      have second : (Graph.build {} [palette]).referencesOf "base" = [] := by
        rw [build_palette]
        cbv
      simp [Graph.Refers, first, second]
    have same : ∀ path ∈ ["accent", "base"],
        (Graph.build {} [palette]).node? path = (Graph.build {} [repainted]).node? path := by
      rw [build_palette, repainted, Graph.build_object, List.forall_mem_cons,
        List.forall_mem_singleton]
      exact ⟨rfl, rfl⟩
    exact .of_node?_eq (same goal among)
  exact ⟨agrees, resolve_local {} {} [palette] [repainted] (by decide) (by decide) true false false
    false [.resolve "border"] [.resolveAll] "accent" agrees⟩

end DesignTokens.Resolver
