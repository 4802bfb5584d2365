import DesignTokens.Proofs.Entries
import Mathlib.Data.List.Induction
import Mathlib.Data.List.Nodup

/-! Gathering in one equation: each name has one group, at the place where it first came,
with the items that came under it. -/
namespace DesignTokens.Entries

variable {α : Type}

theorem eraseDups_concat (names : List String) (last : String) :
    (names ++ [last]).eraseDups = names.eraseDups ++ if last ∈ names then [] else [last] := by
  rw [List.eraseDups_append]
  split
  · next known => simp [List.removeAll, known]
  · next new => simp [List.removeAll, new, List.eraseDups_cons]

/-- First places rise along the names. -/
theorem pairwise_idxOf_eraseDups (names : List String) :
    names.eraseDups.Pairwise fun first second => names.idxOf first < names.idxOf second := by
  induction names using List.reverseRecOn with
  | nil => exact .nil
  | append_singleton names last ih =>
    have before : names.eraseDups.Pairwise fun first second =>
        (names ++ [last]).idxOf first < (names ++ [last]).idxOf second := by
      refine ih.imp_of_mem ?_
      intro first second known also earlier
      rwa [List.idxOf_append_of_mem (List.mem_eraseDups.mp known),
        List.idxOf_append_of_mem (List.mem_eraseDups.mp also)]
    rw [eraseDups_concat]
    split
    · rwa [List.append_nil]
    · next new =>
      rw [List.pairwise_append]
      refine ⟨before, List.pairwise_singleton _ _, ?_⟩
      intro first member second same
      rw [List.mem_singleton.mp same]
      rw [List.mem_eraseDups] at member
      rw [List.idxOf_append_of_mem member, List.idxOf_append_of_notMem new]
      have := List.idxOf_lt_length_of_mem member
      omega

theorem nodup_eraseDups (names : List String) : names.eraseDups.Nodup := by
  refine (pairwise_idxOf_eraseDups names).imp ?_
  rintro first second earlier rfl
  exact Nat.lt_irrefl _ earlier

/-- The items of the pairs with one name, in their order. -/
def itemsUnder (name : String) (pairs : List (String × α)) : List α :=
  (pairs.filter (·.1 = name)).map Prod.snd

theorem itemsUnder_concat (name other : String) (item : α) (pairs : List (String × α)) :
    itemsUnder name (pairs ++ [(other, item)]) =
      itemsUnder name pairs ++ if other = name then [item] else [] := by
  rw [itemsUnder, List.filter_append, List.map_append, itemsUnder]
  by_cases same : other = name <;> simp [same]

private theorem itemsUnder_eq_nil {name : String} {pairs : List (String × α)}
    (new : name ∉ keys pairs) :
    itemsUnder name pairs = [] := by
  rw [itemsUnder, List.map_eq_nil_iff, List.filter_eq_nil_iff]
  intro pair member same
  rw [decide_eq_true_iff] at same
  exact new (List.mem_map.mpr ⟨pair, member, same⟩)

/-- One more item among groups that are a function of their names. -/
private theorem gather_map (name : String) (item : α) (items : String → List α)
    {names : List String}
    (distinct : names.Nodup) :
    gather name item (names.map fun other => (other, items other)) =
      (names.map fun other => (other, items other ++ if name = other then [item] else [])) ++
        if name ∈ names then [] else [(name, [item])] := by
  induction names with
  | nil => rfl
  | cons first rest ih =>
    obtain ⟨new, distinct⟩ := List.nodup_cons.mp distinct
    by_cases same : first = name
    · subst same
      have others : (rest.map fun other =>
          (other, items other ++ if first = other then [item] else [])) =
            rest.map fun other => (other, items other) := by
        apply List.map_congr_left
        intro other member
        rw [if_neg (ne_of_mem_of_not_mem member new).symm, List.append_nil]
      rw [List.map_cons, List.map_cons, gather_cons_self, others, if_pos rfl,
        if_pos List.mem_cons_self, List.append_nil]
    · have member : name ∈ first :: rest ↔ name ∈ rest := by
        rw [List.mem_cons, or_iff_right (Ne.symm same)]
      rw [List.map_cons, List.map_cons, gather_cons_of_ne same, ih distinct, if_neg (Ne.symm same),
        List.append_nil, List.cons_append, if_congr member rfl rfl]

/-- One group for each name, in the order in which the names first come. -/
theorem foldl_gather_eq (pairs : List (String × α)) :
    pairs.foldl (fun groups pair => gather pair.1 pair.2 groups) [] =
      (keys pairs).eraseDups.map fun name => (name, itemsUnder name pairs) := by
  induction pairs using List.reverseRecOn with
  | nil => rfl
  | append_singleton pairs pair ih =>
    obtain ⟨name, item⟩ := pair
    have names : keys (pairs ++ [(name, item)]) = keys pairs ++ [name] := List.map_append
    rw [List.foldl_append, ih, List.foldl_cons, List.foldl_nil,
      gather_map _ _ _ (nodup_eraseDups _),
      names, eraseDups_concat, List.map_append, if_congr List.mem_eraseDups rfl rfl]
    simp only [itemsUnder_concat]
    congr 1
    split
    · rfl
    · next new => rw [List.map_singleton, itemsUnder_eq_nil new, if_pos rfl, List.nil_append]

end DesignTokens.Entries
