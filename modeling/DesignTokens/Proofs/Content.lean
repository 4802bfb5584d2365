import DesignTokens.Proofs.Graph.Reachability
import DesignTokens.Proofs.Value.Substitution
import Mathlib.Data.List.Sort
import Mathlib.Data.String.Basic

/-! What a value amounts to, told from its references alone: the paths it refers to are
theirs, and without any it is data of its own. -/
namespace DesignTokens

theorem pairwise_eraseDups : ∀ {paths : List String}, paths.Pairwise (· ≤ ·) →
    paths.eraseDups.Pairwise (· < ·)
  | [], _ => .nil
  | path :: rest, rising => by
    obtain ⟨least, rising⟩ := List.pairwise_cons.mp rising
    rw [List.eraseDups_cons, List.pairwise_cons]
    refine ⟨?_, pairwise_eraseDups (rising.filter _)⟩
    intro other member
    rw [List.mem_eraseDups, List.mem_filter] at member
    obtain ⟨member, different⟩ := member
    refine lt_of_le_of_ne (least other member) ?_
    rintro rfl
    simp at different
termination_by paths => paths.length
decreasing_by exact Nat.lt_succ_of_le (List.length_filter_le _ rest)

theorem pairwise_sortedPaths (paths : List String) : (sortedPaths paths).Pairwise (· < ·) := by
  apply pairwise_eraseDups
  simpa using List.pairwise_mergeSort' (α := String) (· ≤ ·) paths

/-- Rising lists with the same members are equal, so paths may be left out before or after
they are sorted. -/
theorem sortedPaths_filter (keep : String → Bool) (paths : List String) :
    sortedPaths (paths.filter keep) = (sortedPaths paths).filter keep := by
  apply (pairwise_sortedPaths _).eq_of_mem_iff ((pairwise_sortedPaths paths).filter keep)
  intro path
  rw [mem_sortedPaths, List.mem_filter, List.mem_filter, mem_sortedPaths]

theorem Content.nodup_targets (content : Content) : content.targets.Nodup := by
  cases content with
  | concrete value => exact List.nodup_nil
  | «alias» reference => exact List.nodup_singleton reference.path
  | composite value first rest => exact (pairwise_sortedPaths _).nodup

theorem Graph.nodup_referencesOf (graph : Graph) (path : String) :
    (graph.referencesOf path).Nodup := by
  rw [referencesOf_eq]
  cases graph.node? path with
  | none => exact List.nodup_nil
  | some node => exact node.content.nodup_targets

theorem Value.references_of_whole {value : Value} {reference : Reference}
    (whole : Reference.ofValue? value = some reference) : value.references = [⟨[], reference⟩] := by
  cases value with
  | str text => rw [references_str, ← Reference.ofValue?, whole]; rfl
  | _ => contradiction

namespace Content

/-- A value is one reference, stands for the target in its extensions, is plain data, or is
data around its references. -/
theorem classify_cases_of_extensions (value : Value) (extensions : Entries Value) :
    (∃ reference, value.references = [⟨[], reference⟩] ∧
      classify value extensions = .alias reference) ∨
    (∃ target, value.references = [] ∧ aliasTarget? extensions = some target ∧
      classify value extensions = .alias (.ofPath target)) ∨
    (value.references = [] ∧ classify value extensions = .concrete value) ∨
    ∃ first rest, Reference.ofValue? value = none ∧ value.references = first :: rest ∧
      classify value extensions = .composite value first rest := by
  cases whole : Reference.ofValue? value with
  | some reference =>
    exact .inl ⟨reference, Value.references_of_whole whole, by simp only [classify, whole]⟩
  | none =>
    have inside : value.sites = value.references := Value.sites_eq_references whole
    cases sites : value.references with
    | nil =>
      cases named : aliasTarget? extensions with
      | some target =>
        refine .inr (.inl ⟨target, rfl, rfl, ?_⟩)
        simp only [classify, whole, inside, sites, named]
      | none =>
        refine .inr (.inr (.inl ⟨rfl, ?_⟩))
        simp only [classify, whole, inside, sites, named]
    | cons first rest =>
      refine .inr (.inr (.inr ⟨first, rest, rfl, rfl, ?_⟩))
      simp only [classify, whole, inside, sites]

/-- Without extensions a value is one reference, plain data, or data around its references. -/
theorem classify_cases (value : Value) :
    (∃ reference, value.references = [⟨[], reference⟩] ∧ classify value [] = .alias reference) ∨
    (value.references = [] ∧ classify value [] = .concrete value) ∨
    ∃ first rest, Reference.ofValue? value = none ∧ value.references = first :: rest ∧
      classify value [] = .composite value first rest := by
  rcases classify_cases_of_extensions value [] with whole | ⟨target, -, named, -⟩ | others
  · exact .inl whole
  · contradiction
  · exact .inr others

theorem targets_classify (value : Value) :
    (classify value []).targets = sortedPaths (value.references.map (·.reference.path)) := by
  rcases classify_cases value with ⟨reference, sites, content⟩ | ⟨sites, content⟩ |
    ⟨first, rest, -, sites, content⟩
  · rw [content, sites]
    simp [targets, sortedPaths, List.eraseDups_cons]
  · rw [content, sites]
    simp [targets, sortedPaths]
  · rw [content, sites]
    rfl

end Content

end DesignTokens
