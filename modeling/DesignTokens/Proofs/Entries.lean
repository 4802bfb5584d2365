import DesignTokens.Entries

/-! Looking up named items when no name comes twice. -/
namespace DesignTokens.Entries

variable {α β : Type}

theorem mem_of_lookup {entries : Entries α} {name : String} {item : α}
    (found : entries.lookup name = some item) : (name, item) ∈ entries := by
  obtain ⟨before, after, rfl, -⟩ := List.lookup_eq_some_iff.mp found
  exact List.mem_append_right before List.mem_cons_self

theorem lookup_of_mem {entries : Entries α} (distinct : entries.keys.Nodup) {name : String}
    {item : α} (member : (name, item) ∈ entries) : entries.lookup name = some item := by
  induction entries with
  | nil => exact absurd member List.not_mem_nil
  | cons entry rest ih =>
    obtain ⟨other, old⟩ := entry
    obtain ⟨new, others⟩ := List.nodup_cons.mp distinct
    rcases List.mem_cons.mp member with same | later
    · cases same
      exact List.lookup_cons_self
    · have different : (name == other) = false := by
        rw [beq_eq_false_iff_ne]
        rintro rfl
        exact new (List.mem_map.mpr ⟨_, later, rfl⟩)
      rw [List.lookup_cons, different]
      exact ih others later

theorem mem_put {entries : Entries α} {name : String} {item : α} {entry : String × α}
    (member : entry ∈ entries.put name item) : entry = (name, item) ∨ entry ∈ entries := by
  induction entries with
  | nil => exact .inl (List.mem_singleton.mp member)
  | cons head rest ih =>
    obtain ⟨other, old⟩ := head
    unfold put at member
    split at member
    · exact (List.mem_cons.mp member).imp_right (List.mem_cons_of_mem _)
    · rcases List.mem_cons.mp member with same | later
      · exact .inr (same ▸ List.mem_cons_self)
      · exact (ih later).imp_right (List.mem_cons_of_mem _)

theorem lookup_eq_none_of_notMem {entries : Entries α} {name : String}
    (new : name ∉ entries.keys) : entries.lookup name = none := by
  rw [List.lookup_eq_none_iff]
  intro entry known
  rw [bne_iff_ne]
  exact fun same => new (List.mem_map.mpr ⟨entry, known, same.symm⟩)

theorem mem_keys_of_lookup {entries : Entries α} {name : String} {item : α}
    (found : entries.lookup name = some item) : name ∈ entries.keys :=
  List.mem_map.mpr ⟨(name, item), mem_of_lookup found, rfl⟩

theorem exists_lookup_of_mem_keys {entries : Entries α} {name : String}
    (known : name ∈ entries.keys) : ∃ item, entries.lookup name = some item := by
  cases found : entries.lookup name with
  | some item => exact ⟨item, rfl⟩
  | none =>
    obtain ⟨entry, member, rfl⟩ := List.mem_map.mp known
    exact absurd rfl (bne_iff_ne.mp (List.lookup_eq_none_iff.mp found entry member))

theorem mem_keys_put {entries : Entries α} {name other : String} {item : α} :
    name ∈ (entries.put other item).keys ↔ name = other ∨ name ∈ entries.keys := by
  rw [keys_put]
  split
  · next known => exact (or_iff_right_of_imp fun same => same ▸ known).symm
  · rw [List.mem_append, List.mem_singleton, or_comm]

theorem put_of_lookup {entries : Entries α} {name : String} {item : α}
    (found : entries.lookup name = some item) : entries.put name item = entries := by
  induction entries with
  | nil => contradiction
  | cons first rest ih =>
    obtain ⟨other, old⟩ := first
    by_cases same : other = name
    · subst same
      rw [List.lookup_cons_self] at found
      rw [put, if_pos rfl, Option.some.inj found]
    · rw [List.lookup_cons, beq_false_of_ne (Ne.symm same)] at found
      rw [put, if_neg same, ih found]

theorem put_put (entries : Entries α) (name : String) (item other : α) :
    (entries.put name item).put name other = entries.put name other := by
  induction entries with
  | nil => simp [put]
  | cons first rest ih =>
    obtain ⟨label, old⟩ := first
    by_cases same : label = name <;> simp [put, same, ih]

/-- Only names that are both new would come in another order. -/
theorem put_comm {entries : Entries α} {name other : String} (known : name ∈ entries.keys)
    (different : name ≠ other) (item item' : α) :
    (entries.put name item).put other item' = (entries.put other item').put name item := by
  induction entries with
  | nil => contradiction
  | cons first rest ih =>
    obtain ⟨label, old⟩ := first
    by_cases same : label = name
    · subst same
      simp [put, different]
    · have known : name ∈ Entries.keys rest := by
        rcases List.mem_cons.mp known with here | later
        · exact absurd here.symm same
        · exact later
      by_cases same' : label = other <;> simp [put, same, same', ih known, Ne.symm different]

private theorem mem_keys_filterMap {entries : Entries α} {f : String × α → Option (String × β)}
    (keeps : ∀ entry kept, f entry = some kept → kept.1 = entry.1) {name : String}
    (known : name ∈ Entries.keys (entries.filterMap f)) : name ∈ entries.keys := by
  obtain ⟨kept, member, rfl⟩ := List.mem_map.mp known
  obtain ⟨entry, source, made⟩ := List.mem_filterMap.mp member
  exact List.mem_map.mpr ⟨entry, source, (keeps entry kept made).symm⟩

/-- Among distinct names a filter cannot bring a later entry to the front. -/
theorem lookup_filterMap {entries : Entries α} (distinct : entries.keys.Nodup)
    {f : String × α → Option (String × β)}
    (keeps : ∀ entry kept, f entry = some kept → kept.1 = entry.1) (name : String) :
    (entries.filterMap f).lookup name =
      (entries.lookup name).bind fun item => (f (name, item)).map Prod.snd := by
  induction entries with
  | nil => rfl
  | cons entry rest ih =>
    obtain ⟨other, item⟩ := entry
    obtain ⟨new, others⟩ := List.nodup_cons.mp distinct
    by_cases same : name = other
    · subst same
      rw [List.lookup_cons_self, Option.bind_some]
      cases made : f (name, item) with
      | none =>
        rw [List.filterMap_cons_none made]
        exact lookup_eq_none_of_notMem fun known => new (mem_keys_filterMap keeps known)
      | some kept =>
        obtain ⟨label, content⟩ := kept
        obtain rfl : label = name := keeps _ _ made
        rw [List.filterMap_cons_some made, List.lookup_cons_self]
        rfl
    · have different : (name == other) = false := beq_eq_false_iff_ne.mpr same
      rw [List.lookup_cons, different]
      cases made : f (other, item) with
      | none =>
        rw [List.filterMap_cons_none made]
        exact ih others
      | some kept =>
        obtain ⟨label, content⟩ := kept
        obtain rfl : label = other := keeps _ _ made
        rw [List.filterMap_cons_some made, List.lookup_cons, different]
        exact ih others

/-- Distinct names list their items again. -/
theorem map_keys_lookup {entries : Entries α} (distinct : entries.keys.Nodup) (default : α) :
    entries.keys.map (fun name => (name, (entries.lookup name).getD default)) = entries := by
  rw [keys, List.map_map]
  refine (List.map_congr_left ?_).trans (List.map_id entries)
  rintro ⟨name, item⟩ member
  dsimp only [Function.comp_apply, id_eq]
  rw [lookup_of_mem distinct member]
  rfl

def mapItems (f : String → α → β) (entries : Entries α) : Entries β :=
  entries.map fun entry => (entry.1, f entry.1 entry.2)

@[simp] theorem keys_mapItems (f : String → α → β) (entries : Entries α) :
    (entries.mapItems f).keys = entries.keys := by
  rw [keys, mapItems, List.map_map]
  rfl

@[simp] theorem lookup_mapItems (f : String → α → β) (entries : Entries α) (name : String) :
    (entries.mapItems f).lookup name = (entries.lookup name).map (f name) := by
  induction entries with
  | nil => rfl
  | cons entry rest ih =>
    obtain ⟨other, item⟩ := entry
    have unfolded : Entries.mapItems f ((other, item) :: rest) =
        (other, f other item) :: Entries.mapItems f rest := rfl
    rw [unfolded, List.lookup_cons, List.lookup_cons, ih]
    cases same : name == other with
    | true => rw [beq_iff_eq.mp same]; rfl
    | false => rfl

/-- Each item of each group, beside the name of its group. -/
def spread (groups : Entries (List α)) : List (String × α) :=
  groups.flatMap fun group => group.2.map fun item => (group.1, item)

theorem gather_cons_self (name : String) (item : α) (items : List α)
    (rest : Entries (List α)) :
    gather name item ((name, items) :: rest) = (name, items ++ [item]) :: rest := by
  rw [gather, List.lookup_cons_self, Option.getD_some, put, if_pos rfl]

theorem gather_cons_of_ne {name other : String} (different : other ≠ name) (item : α)
    (items : List α) (rest : Entries (List α)) :
    gather name item ((other, items) :: rest) = (other, items) :: gather name item rest := by
  have unequal : (name == other) = false := beq_eq_false_iff_ne.mpr different.symm
  rw [gather, List.lookup_cons, unequal, put, if_neg different, gather]

/-- One more item, wherever its group stands. -/
private theorem spread_gather_perm (name : String) (item : α) (groups : Entries (List α)) :
    (spread (gather name item groups)).Perm (spread groups ++ [(name, item)]) := by
  induction groups with
  | nil => exact .refl _
  | cons group rest ih =>
    obtain ⟨other, items⟩ := group
    by_cases same : other = name
    · subst same
      rw [gather_cons_self]
      unfold spread
      rw [List.flatMap_cons, List.flatMap_cons, List.map_append, List.append_assoc,
        List.append_assoc]
      exact List.perm_append_comm.append_left _
    · rw [gather_cons_of_ne same]
      unfold spread at ih ⊢
      rw [List.flatMap_cons, List.flatMap_cons, List.append_assoc]
      exact ih.append_left _

theorem spread_foldl_gather_perm (pairs : List (String × α)) (groups : Entries (List α)) :
    (spread (pairs.foldl (fun groups pair => gather pair.1 pair.2 groups) groups)).Perm
      (spread groups ++ pairs) := by
  induction pairs generalizing groups with
  | nil => rw [List.append_nil]; exact .refl _
  | cons pair rest ih =>
    rw [List.foldl_cons, List.append_cons]
    exact (ih _).trans ((spread_gather_perm pair.1 pair.2 groups).append_right rest)

theorem nodup_keys_foldl_gather (pairs : List (String × α)) {groups : Entries (List α)}
    (distinct : groups.keys.Nodup) :
    (Entries.keys
      (pairs.foldl (fun groups pair => gather pair.1 pair.2 groups) groups)).Nodup := by
  induction pairs generalizing groups with
  | nil => exact distinct
  | cons pair rest ih => exact ih (nodup_keys_put distinct ..)

end DesignTokens.Entries
