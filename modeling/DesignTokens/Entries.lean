/-! Named items in the order in which the names first came. Writing under a
known name keeps its place, so the order of names never depends on the items. -/
namespace DesignTokens

abbrev Entries (α : Type) := List (String × α)

namespace Entries

variable {α : Type}

def keys (entries : Entries α) : List String := entries.map Prod.fst

def items (entries : Entries α) : List α := entries.map Prod.snd

def put (name : String) (item : α) : Entries α → Entries α
  | [] => [(name, item)]
  | (other, old) :: rest =>
    if other = name then (name, item) :: rest else (other, old) :: put name item rest

/-- A name that comes twice keeps its first place and its last item. -/
def ofPairs (pairs : List (String × α)) : Entries α :=
  pairs.foldl (fun entries pair => entries.put pair.1 pair.2) []

def has (entries : Entries α) (name : String) : Bool := (entries.lookup name).isSome

/-- Adds to the list kept under a name, starting one for a new name. -/
def gather (name : String) (item : α) (groups : Entries (List α)) : Entries (List α) :=
  groups.put name ((groups.lookup name).getD [] ++ [item])

def count (name : String) (amount : Nat) (tally : Entries Nat) : Entries Nat :=
  tally.put name ((tally.lookup name).getD 0 + amount)

@[simp] theorem lookup_put_self (entries : Entries α) (name : String) (item : α) :
    (entries.put name item).lookup name = some item := by
  induction entries with
  | nil => simp [put]
  | cons head rest ih =>
    obtain ⟨other, old⟩ := head
    by_cases h : other = name
    · simp [put, h]
    · simp [put, h, List.lookup_cons, beq_eq_false_iff_ne.mpr (Ne.symm h), ih]

theorem lookup_put_of_ne (entries : Entries α) {name other : String} (item : α)
    (different : other ≠ name) :
    (entries.put name item).lookup other = entries.lookup other := by
  induction entries with
  | nil => simp [put, List.lookup_cons, beq_eq_false_iff_ne.mpr different]
  | cons head rest ih =>
    obtain ⟨first, old⟩ := head
    by_cases h : first = name
    · subst h
      simp [put, List.lookup_cons, beq_eq_false_iff_ne.mpr different]
    · simp only [put, h, if_false, List.lookup_cons, ih]

/-- Writing adds a new name at the end and keeps a known one where it is. -/
theorem keys_put (entries : Entries α) (name : String) (item : α) :
    (entries.put name item).keys =
      if name ∈ entries.keys then entries.keys else entries.keys ++ [name] := by
  induction entries with
  | nil => simp [put, keys]
  | cons head rest ih =>
    obtain ⟨other, old⟩ := head
    by_cases h : other = name
    · simp [put, h, keys]
    · have hne : name ≠ other := Ne.symm h
      simp only [keys] at ih
      simp only [put, h, if_false, keys, List.map_cons, List.mem_cons, hne, false_or, ih]
      split <;> simp_all

theorem nodup_keys_put {entries : Entries α} (distinct : entries.keys.Nodup) (name : String)
    (item : α) : (entries.put name item).keys.Nodup := by
  rw [keys_put]
  split
  · exact distinct
  · next new =>
    rw [List.nodup_append]
    refine ⟨distinct, by simp, ?_⟩
    intro key known other same
    rw [List.mem_singleton.mp same]
    exact fun equal => new (equal ▸ known)

end Entries

end DesignTokens
