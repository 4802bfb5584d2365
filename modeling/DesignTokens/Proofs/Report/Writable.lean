import DesignTokens.Proofs.Json.Writable
import DesignTokens.Report.Json

/-! What of a report can be written as JSON. In a report that can be written whole every part can
be written that is shown on its own. -/
namespace DesignTokens

namespace Value

private theorem finiteItems_eq_map (items : List Value) : finiteItems items = items.map finite := by
  induction items with
  | nil => rfl
  | cons item rest ih => rw [finiteItems, ih, List.map_cons]

private theorem finiteFields_eq_map (fields : Entries Value) :
    finiteFields fields = fields.map fun field => (field.1, field.2.finite) := by
  induction fields with
  | nil => rfl
  | cons field rest ih => rw [finiteFields, ih, List.map_cons]

theorem isWritable_finite_iff {room : Nat} {value : Value} :
    value.finite.IsWritable room ↔ value.IsWritable room := by
  induction value using Value.induction generalizing room with
  | list items ih =>
    rw [finite, finiteItems_eq_map]
    cases room with
    | zero => exact iff_of_false not_isWritable_list_zero not_isWritable_list_zero
    | succ room =>
      rw [isWritable_list_iff, isWritable_list_iff, List.forall_mem_map]
      exact forall₂_congr fun item member => ih item member
  | object fields ih =>
    rw [finite, finiteFields_eq_map]
    cases room with
    | zero => exact iff_of_false not_isWritable_object_zero not_isWritable_object_zero
    | succ room =>
      rw [isWritable_object_iff, isWritable_object_iff, List.forall_mem_map]
      exact forall₂_congr fun field member => ih field member
  | float x =>
    have writes (x : Binary64) : (float x).IsWritable room :=
      ⟨Nat.zero_le room, List.forall_mem_singleton.mpr rfl⟩
    have writesNull : null.IsWritable room :=
      ⟨Nat.zero_le room, List.forall_mem_singleton.mpr rfl⟩
    rw [finite]
    split
    · exact Iff.rfl
    · exact iff_of_true writesNull (writes x)
  | null | bool | int | str => exact Iff.rfl

end Value

namespace Report

variable {room : Nat}

theorem isWritable_resolutionValue_finite_iff {outcome : Resolution} :
    (resolutionValue { outcome with value := outcome.value.finite }).IsWritable room ↔
      (resolutionValue outcome).IsWritable room := by
  cases room with
  | zero => exact iff_of_false Value.not_isWritable_object_zero Value.not_isWritable_object_zero
  | succ room =>
    simp only [resolutionValue, Value.isWritable_object_iff, List.forall_mem_cons,
      Value.isWritable_finite_iff]

variable {report : Report} {includeResolved : Bool}

theorem isWritable_resolutionValue_of_toValue
    (writes : (report.toValue includeResolved).IsWritable room) {entry : String × Resolution}
    (shown : entry ∈ report.shownResults includeResolved) :
    (resolutionValue entry.2).IsWritable room := by
  have results := writes.field (List.mem_cons_of_mem _ List.mem_cons_self)
  exact results.field (List.mem_map_of_mem shown)

theorem isWritable_of_toValue (writes : (report.toValue includeResolved).IsWritable room)
    {entry : String × Resolution} (shown : entry ∈ report.shownResults includeResolved) :
    entry.2.value.IsWritable room :=
  (isWritable_resolutionValue_of_toValue writes shown).field
    (List.mem_cons_of_mem _ (List.mem_cons_of_mem _ List.mem_cons_self))

/-- A report that can be written whole can be written without some of its results. -/
theorem isWritable_toValue (writes : (report.toValue true).IsWritable room)
    (includeResolved : Bool) : (report.toValue includeResolved).IsWritable room := by
  obtain _ | _ | room := room
  · exact absurd writes Value.not_isWritable_object_zero
  · have results := Value.isWritable_object_iff.mp writes _
      (List.mem_cons_of_mem _ List.mem_cons_self)
    exact absurd results Value.not_isWritable_object_zero
  · rw [toValue, Value.isWritable_object_iff] at writes ⊢
    simp only [List.forall_mem_cons] at writes ⊢
    obtain ⟨sources, results, others⟩ := writes
    refine ⟨sources, ?_, others⟩
    rw [Value.isWritable_object_iff, List.forall_mem_map] at results ⊢
    intro entry shown
    exact results entry (List.mem_filter.mpr ⟨(List.mem_filter.mp shown).1, rfl⟩)

end Report

end DesignTokens
