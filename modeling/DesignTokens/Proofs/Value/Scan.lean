import DesignTokens.Reference

/-! The scan with a stack of parts to come finds the references that the recursion through a
value finds. -/
namespace DesignTokens

/-- The site as seen from a value that holds its own at a location. -/
def ReferenceSite.within (location : Location) (site : ReferenceSite) : ReferenceSite :=
  { site with location := location ++ site.location }

@[simp] theorem ReferenceSite.within_nil (site : ReferenceSite) : site.within [] = site := rfl

namespace Value

theorem map_under_within (location : Location) (step : Step) (sites : List ReferenceSite) :
    (sites.map (·.under step)).map (·.within location) =
      sites.map (·.within (location ++ [step])) := by
  simp [ReferenceSite.under, ReferenceSite.within]

theorem flatMap_itemParts (location : Location) (position : Nat) (items : List Value) :
    ((itemParts location position items).flatMap fun part =>
      part.value.references.map (·.within part.location)) =
      (itemReferences position items).map (·.within location) := by
  induction items generalizing position with
  | nil => rfl
  | cons item rest ih =>
    rw [itemParts, List.flatMap_cons, ih, itemReferences, List.map_append, map_under_within]

private theorem flatMap_fieldParts (location : Location) (fields : Entries Value) :
    ((fieldParts location fields).flatMap fun part =>
      part.value.references.map (·.within part.location)) =
      (fieldReferences fields).map (·.within location) := by
  induction fields with
  | nil => rfl
  | cons field rest ih =>
    rw [fieldParts, List.flatMap_cons, ih, fieldReferences, List.map_append, map_under_within]

/-- Neither list nor object. -/
theorem references_of_plain {value : Value} (noList : ∀ items, value = .list items → False)
    (noObject : ∀ fields, value = .object fields → False) :
    value.references = ((Reference.ofValue? value).map (⟨[], ·⟩)).toList := by
  cases value with
  | list items => exact (noList items rfl).elim
  | object fields => exact (noObject fields rfl).elim
  | _ => rfl

/-- The stack is worked off part by part, each as by recursion; only a reference that is the
whole value is passed over. -/
theorem scan_eq (stack : List Part) :
    scan stack = (stack.flatMap fun part =>
      part.value.references.map (·.within part.location)).filter fun site =>
        site.location ≠ [] := by
  fun_induction scan stack with
  | case1 => rfl
  | case2 location items outer ih =>
    rw [ih, List.flatMap_append, flatMap_itemParts, List.flatMap_cons, references]
  | case3 location fields outer ih =>
    rw [ih, List.flatMap_append, flatMap_fieldParts, List.flatMap_cons, references]
  | case4 value outer noList noObject reference refers ih =>
    simp [ih, references_of_plain noList noObject, refers]
  | case5 location value outer noList noObject reference refers inside ih =>
    simp [ih, references_of_plain noList noObject, refers, ReferenceSite.within, inside]
  | case6 location value outer noList noObject plain ih =>
    simp [ih, references_of_plain noList noObject, plain]

theorem sites_eq_filter (value : Value) :
    value.sites = value.references.filter fun site => site.location ≠ [] := by
  simp [sites, scan_eq]

theorem location_ne_nil_of_mem_sites {value : Value} {site : ReferenceSite}
    (member : site ∈ value.sites) : site.location ≠ [] := by
  rw [sites_eq_filter] at member
  exact of_decide_eq_true (List.mem_filter.mp member).2

end Value

end DesignTokens
