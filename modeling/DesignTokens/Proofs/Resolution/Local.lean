import DesignTokens.Proofs.Resolution.Chain

/-! Resolution is local. What a path resolves to depends on the tokens that it leads to
and on nothing else that a graph holds. -/
namespace DesignTokens

namespace Graph

/-- Neither graph has the path, or both have it with one declared value and one content. -/
inductive AgreesAt (graph other : Graph) (path : String) : Prop where
  | absent (here : graph.node? path = none) (there : other.node? path = none)
  | present {node node' : Node} (here : graph.node? path = some node)
      (there : other.node? path = some node') (value : node.token.value = node'.token.value)
      (content : node.content = node'.content)

/-- The graphs agree wherever the path leads in the first one. -/
def AgreesFrom (graph other : Graph) (path : String) : Prop :=
  ∀ goal, graph.Reaches path goal → graph.AgreesAt other goal

variable {graph other : Graph} {path : String}

theorem AgreesAt.of_node?_eq (same : graph.node? path = other.node? path) :
    graph.AgreesAt other path := by
  cases found : graph.node? path with
  | none => exact .absent found (same.symm.trans found)
  | some node => exact .present found (same.symm.trans found) rfl rfl

theorem AgreesFrom.here (agrees : graph.AgreesFrom other path) : graph.AgreesAt other path :=
  agrees path .refl

theorem AgreesFrom.of_refers (agrees : graph.AgreesFrom other path) {target : String}
    (refers : graph.Refers path target) : graph.AgreesFrom other target :=
  fun goal reached => agrees goal (.head refers reached)

end Graph

variable {graph other : Graph}

/-- Along the rule in the first graph: the second one takes each of its steps as well, with
the same paths visited. -/
theorem resolution_congr (visited : List String) (path : String) (via : Option Reference)
    (agrees : graph.AgreesFrom other path) :
    resolution graph visited path via = resolution other visited path via := by
  induction visited, path using resolution_induction graph generalizing via with
  | absent visited path absent =>
    cases agrees.here with
    | absent _ there => rw [resolution_of_absent absent, resolution_of_absent there]
    | present here =>
      rw [absent] at here
      contradiction
  | seen visited path node found seen =>
    cases agrees.here with
    | absent here =>
      rw [found] at here
      contradiction
    | present here there value =>
      rw [resolution_of_visited here seen, resolution_of_visited there seen, value]
  | step visited path node found new ih =>
    have below_eq {reference : Reference} (refers : graph.Refers path reference.path) :
        below graph (path :: visited) reference = below other (path :: visited) reference :=
      ih reference.path refers (some reference) (agrees.of_refers refers)
    cases agrees.here with
    | absent here =>
      rw [found] at here
      contradiction
    | present here there value content =>
      rw [resolution_of_new here new, resolution_of_new there new, ← content, ← value]
      cases kind : Node.content _ with
      | concrete value => rfl
      | «alias» reference =>
        dsimp only
        rw [below_eq]
        rw [Graph.refers_iff here, kind, Content.mem_targets_alias]
      | composite value first rest =>
        have refers (site : ReferenceSite) (member : site ∈ first :: rest) :
            graph.Refers path site.reference.path := by
          rw [Graph.refers_iff here, kind, Content.mem_targets_composite]
          exact ⟨site, member, rfl⟩
        apply assemble_congr
        · intro site member
          rw [below_eq (refers site member)]
        · intro site member _
          exact below_eq (refers site member)

theorem Graph.AgreesFrom.resolutionOf_eq {path : String} (agrees : graph.AgreesFrom other path) :
    graph.resolutionOf path = other.resolutionOf path :=
  congrArg (Resolution.ofAnswer path) (resolution_congr [] path none agrees)

end DesignTokens
