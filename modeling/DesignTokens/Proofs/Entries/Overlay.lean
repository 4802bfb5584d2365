import DesignTokens.Proofs.Entries.Gather

/-! Items written one after the other over those that are there. The last item of a name is
the one that is found, at the place where the name first came. -/
namespace DesignTokens.Entries

variable {α β : Type}

def putAll (pairs : List (String × α)) (entries : Entries α) : Entries α :=
  pairs.foldl (fun entries pair => entries.put pair.1 pair.2) entries

theorem putAll_concat (pairs : List (String × α)) (name : String) (item : α)
    (entries : Entries α) :
    putAll (pairs ++ [(name, item)]) entries = (putAll pairs entries).put name item :=
  List.foldl_concat ..

theorem ofPairs_append (pairs others : List (String × α)) :
    ofPairs (pairs ++ others) = putAll others (ofPairs pairs) :=
  List.foldl_append ..

/-- The last item written under a name counts, and without one the item from before. -/
theorem lookup_putAll (pairs : List (String × α)) (entries : Entries α) (name : String) :
    (putAll pairs entries).lookup name = (pairs.reverse.lookup name).or (entries.lookup name) := by
  induction pairs using List.reverseRecOn with
  | nil => rfl
  | append_singleton pairs last ih =>
    obtain ⟨other, item⟩ := last
    rw [putAll_concat, List.reverse_append, List.reverse_singleton, List.singleton_append,
      List.lookup_cons]
    by_cases same : name = other
    · subst same
      rw [lookup_put_self, beq_self_eq_true]
      rfl
    · rw [lookup_put_of_ne _ _ same, ih, beq_eq_false_iff_ne.mpr same]

theorem lookup_ofPairs (pairs : List (String × α)) (name : String) :
    (ofPairs pairs).lookup name = pairs.reverse.lookup name :=
  (lookup_putAll pairs [] name).trans (Option.or_none ..)

/-- New names follow in the order in which they first come. -/
theorem keys_putAll (pairs : List (String × α)) (entries : Entries α) :
    (putAll pairs entries).keys =
      entries.keys ++ (keys pairs).eraseDups.filter fun name => name ∉ entries.keys := by
  induction pairs using List.reverseRecOn with
  | nil => exact (List.append_nil _).symm
  | append_singleton pairs last ih =>
    obtain ⟨name, item⟩ := last
    have names : keys (pairs ++ [(name, item)]) = keys pairs ++ [name] := List.map_append
    rw [putAll_concat, keys_put, ih, names, eraseDups_concat, List.filter_append]
    by_cases known : name ∈ entries.keys
    · have skipped : (if name ∈ keys pairs then [] else [name]).filter
          (fun name => name ∉ entries.keys) = [] := by
        split <;> simp [known]
      rw [if_pos (List.mem_append_left _ known), skipped, List.append_nil]
    · by_cases again : name ∈ keys pairs <;> simp [known, again]

theorem keys_ofPairs (pairs : List (String × α)) :
    (ofPairs pairs).keys = (keys pairs).eraseDups :=
  (keys_putAll pairs []).trans (by simp [keys])

theorem put_of_notMem {entries : Entries α} {name : String} (new : name ∉ entries.keys)
    (item : α) : entries.put name item = entries ++ [(name, item)] := by
  induction entries with
  | nil => rfl
  | cons head rest ih =>
    obtain ⟨other, old⟩ := head
    obtain ⟨different, new⟩ := not_or.mp (mt List.mem_cons.mpr new)
    rw [put, if_neg (Ne.symm different), ih new]
    rfl

theorem put_of_nodup {before after : Entries α} {entry : String × α}
    (distinct : (before ++ entry :: after).keys.Nodup) :
    before.put entry.1 entry.2 = before ++ [entry] := by
  have names : keys (before ++ entry :: after) = keys before ++ entry.1 :: keys after :=
    List.map_append
  rw [names, List.nodup_append'] at distinct
  exact put_of_notMem (fun known => distinct.2.2 known List.mem_cons_self) entry.2

theorem mapItems_put (f : String → α → β) (entries : Entries α) (name : String) (item : α) :
    (entries.put name item).mapItems f = (entries.mapItems f).put name (f name item) := by
  induction entries with
  | nil => rfl
  | cons head rest ih =>
    obtain ⟨other, old⟩ := head
    have unfolded : Entries.mapItems f ((other, old) :: rest) =
        (other, f other old) :: Entries.mapItems f rest := rfl
    rw [unfolded, put, put]
    split
    · rfl
    · exact congrArg ((other, f other old) :: ·) ih

theorem mapItems_ofPairs (f : String → α → β) (pairs : List (String × α)) :
    (ofPairs pairs).mapItems f = ofPairs (mapItems f pairs) := by
  induction pairs using List.reverseRecOn with
  | nil => rfl
  | append_singleton pairs last ih =>
    obtain ⟨name, item⟩ := last
    have unfolded : mapItems f (pairs ++ [(name, item)]) =
        mapItems f pairs ++ [(name, f name item)] := List.map_append
    rw [ofPairs_append, unfolded, ofPairs_append, ← ih]
    exact mapItems_put f _ name item

end DesignTokens.Entries
