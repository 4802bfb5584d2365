import DesignTokens.Proofs.Graph.Built
import DesignTokens.Proofs.Resolution.Chain
import DesignTokens.Proofs.Value.Substitution

/-! Resolution in a graph that is built from trees, where the contents of a token are
those of its declared value. -/
namespace DesignTokens

variable {settings : Settings} {trees : List Value} {path : String} {node : Node}

namespace Graph

theorem declared_of_concrete (found : (build settings trees).node? path = some node)
    {value : Value} (content : node.content = .concrete value) : value = node.token.value := by
  rw [content_build found] at content
  exact Content.value_of_classify_concrete content

/-- A composite holds the declared value with all its references. -/
theorem declared_of_composite (found : (build settings trees).node? path = some node)
    {value : Value} {first : ReferenceSite} {rest : List ReferenceSite}
    (content : node.content = .composite value first rest) :
    value = node.token.value ∧ first :: rest = node.token.value.sites ∧
      Reference.ofValue? node.token.value = none := by
  rw [content_build found] at content
  exact Content.of_classify_composite content

end Graph

/-- Behind the sites of a composite, its declared value has what its references resolve
to, and the text of those that fail. -/
theorem answer_of_composite_build (h : ∀ tree ∈ trees, tree.isWellKeyed = true)
    (found : (Graph.build settings trees).node? path = some node) {value : Value}
    {first : ReferenceSite} {rest : List ReferenceSite}
    (content : node.content = .composite value first rest) :
    (Graph.build settings trees).answer path =
      (Status.worst ((first :: rest).map fun site =>
          ((Graph.build settings trees).answer site.reference.path).1),
        node.token.value.substitute
          (Value.fill fun reference => (Graph.build settings trees).answer reference.path)) := by
  obtain ⟨same, sites, whole⟩ := Graph.declared_of_composite found content
  rw [answer_of_composite found content, assemble, sites, same,
    Value.foldl_writeSite_sites _ whole (Graph.isWellKeyed_build h found)]

theorem isWellKeyed_missingValue (via : Option Reference) :
    (missingValue via).isWellKeyed = true := by
  cases via <;> rfl

theorem isWellKeyed_handOn {declared : Value} {target : Status × Value}
    (h : declared.isWellKeyed = true) (new : target.2.isWellKeyed = true) :
    (handOn declared target).2.isWellKeyed = true := by
  unfold handOn
  split
  · exact new
  · exact h

private theorem isWellKeyed_foldl_writeSite {answer : Reference → Status × Value}
    (sites : List ReferenceSite) {value : Value} (h : value.isWellKeyed = true)
    (new : ∀ site ∈ sites, (answer site.reference).2.isWellKeyed = true) :
    (sites.foldl (writeSite answer) value).isWellKeyed = true := by
  induction sites generalizing value with
  | nil => exact h
  | cons site rest ih =>
    obtain ⟨first, others⟩ := List.forall_mem_cons.mp new
    rw [List.foldl_cons]
    refine ih ?_ others
    unfold writeSite
    split
    · exact Value.isWellKeyed_splice _ h first
    · exact h

theorem isWellKeyed_resolution (h : ∀ tree ∈ trees, tree.isWellKeyed = true)
    (visited : List String) (path : String) (via : Option Reference) :
    (resolution (Graph.build settings trees) visited path via).2.isWellKeyed = true := by
  induction visited, path using resolution_induction (Graph.build settings trees)
    generalizing via with
  | absent visited path absent =>
    rw [resolution_of_absent absent]
    exact isWellKeyed_missingValue via
  | seen visited path node found seen =>
    rw [resolution_of_visited found seen]
    exact Graph.isWellKeyed_build h found
  | step visited path node found new ih =>
    have declared := Graph.isWellKeyed_build h found
    cases content : node.content with
    | concrete value =>
      rw [resolution_of_concrete found new content, Graph.declared_of_concrete found content]
      exact declared
    | «alias» reference =>
      rw [resolution_of_alias found new content]
      apply isWellKeyed_handOn declared
      apply ih
      rw [Graph.refers_iff found, content, Content.mem_targets_alias]
    | composite value first rest =>
      rw [resolution_of_composite found new content]
      apply isWellKeyed_foldl_writeSite
      · rw [(Graph.declared_of_composite found content).1]
        exact declared
      · intro site member
        apply ih
        rw [Graph.refers_iff found, content, Content.mem_targets_composite]
        exact ⟨site, member, rfl⟩

/-- What a verifying resolver compares always agrees. -/
theorem agrees_resolutionOf_build (settings : Settings)
    (h : ∀ tree ∈ trees, tree.isWellKeyed = true)
    (path : String) :
    ((Graph.build settings trees).resolutionOf path).agrees
      ((Graph.build settings trees).resolutionOf path) = true :=
  Resolution.agrees_refl _ (isWellKeyed_resolution h [] path none)

end DesignTokens
