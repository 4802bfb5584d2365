import DesignTokens.Graph
import DesignTokens.Proofs.Tree.Children

/-! Nodes that are skipped. A graph keeps those of all its trees, each with a reason that
speaks of the keys of the settings and of nothing in the tree. -/
namespace DesignTokens

namespace Tree

variable {settings : Settings}

/-- A reason closes a bracket only where a key of the settings does. -/
private theorem closes_of_malformed {node : Value} {reason : String}
    (malformed : classify settings node = .malformed reason)
    (type : ']' ∉ settings.typeKey.toList) (value : ']' ∉ settings.valueKey.toList) :
    ']' ∉ reason.toList := by
  cases node with
  | object fields =>
    rw [classify, classifyFields] at malformed
    split at malformed
    · cases malformed
    · split at malformed
      · cases malformed
      · cases malformed
        simp [type, value]
    · cases malformed
      simp [type]
  | _ =>
    cases malformed
    simp [kindName]

theorem closes_of_mem_walk {tree : Value} {skipped : SkippedNode}
    (member : .skipped skipped ∈ walk settings tree) (type : ']' ∉ settings.typeKey.toList)
    (value : ']' ∉ settings.valueKey.toList) : ']' ∉ skipped.reason.toList := by
  cases tree with
  | object fields =>
    obtain ⟨child, -, visited⟩ := mem_walk_iff.mp member
    exact closes_of_malformed (child.malformed_of_visit? visited) type value
  | _ =>
    cases List.mem_singleton.mp member
    decide

end Tree

namespace Graph

variable {settings : Settings}

theorem skipped_foldl_add (visits : List Tree.Visit) (graph : Graph) :
    (visits.foldl (add settings) graph).skipped =
      graph.skipped ++ visits.filterMap Tree.Visit.skipped? := by
  induction visits generalizing graph with
  | nil => exact (List.append_nil _).symm
  | cons visit rest ih =>
    rw [List.foldl_cons, ih]
    cases visit with
    | token token => rfl
    | skipped node => exact List.append_assoc _ [node] _

theorem skipped_build (settings : Settings) (trees : List Value) :
    (build settings trees).skipped = trees.flatMap (Tree.skippedNodes settings) := by
  rw [build, ofVisits, skipped_foldl_add, List.filterMap_flatMap]
  rfl

theorem closes_of_mem_skipped {trees : List Value} {node : SkippedNode}
    (member : node ∈ (build settings trees).skipped) (type : ']' ∉ settings.typeKey.toList)
    (value : ']' ∉ settings.valueKey.toList) : ']' ∉ node.reason.toList := by
  rw [skipped_build] at member
  obtain ⟨tree, -, kept⟩ := List.mem_flatMap.mp member
  obtain ⟨visit, walked, same⟩ := List.mem_filterMap.mp kept
  cases visit with
  | token token => cases same
  | skipped other =>
    obtain rfl := Option.some.inj same
    exact Tree.closes_of_mem_walk walked type value

end Graph

end DesignTokens
