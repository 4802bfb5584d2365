import DesignTokens.Proofs.Value.Key
import Mathlib.Data.List.Nodup
import Mathlib.Data.List.Perm.Subperm
import Mathlib.Data.String.Basic

/-! Keys look past the order of fields. Sorting undoes it at every depth, so that alike values
have one key, and two values that are no text have one key exactly if they are alike. -/
namespace DesignTokens

namespace Entries

variable {α : Type}

def byKey (a b : String × α) : Bool := decide (a.1 ≤ b.1)

theorem pairwise_mergeSort_byKey (entries : Entries α) :
    (entries.mergeSort byKey).Pairwise fun a b => byKey a b = true := by
  apply List.pairwise_mergeSort
  · intro a b c
    simp only [byKey, decide_eq_true_iff]
    exact le_trans
  · intro a b
    simp only [byKey, Bool.or_eq_true, decide_eq_true_iff]
    exact le_total a.1 b.1

/-- Entries with distinct keys are sorted in one way, whatever order they come in. -/
theorem mergeSort_eq_of_perm {entries entries' : Entries α} (distinct : entries.keys.Nodup)
    (perm : entries.Perm entries') : entries.mergeSort byKey = entries'.mergeSort byKey := by
  have sorted : (entries.mergeSort byKey).Perm (entries'.mergeSort byKey) :=
    ((List.mergeSort_perm entries byKey).trans perm).trans
      (List.mergeSort_perm entries' byKey).symm
  refine sorted.eq_of_pairwise ?_ (pairwise_mergeSort_byKey entries)
    (pairwise_mergeSort_byKey entries')
  intro a b member member' first last
  have known : a ∈ entries := List.mem_mergeSort.mp member
  have known' : b ∈ entries := perm.mem_iff.mpr (List.mem_mergeSort.mp member')
  have keys : a.1 = b.1 := le_antisymm (of_decide_eq_true first) (of_decide_eq_true last)
  exact List.inj_on_of_nodup_map distinct known known' keys

/-- Sorting by keys does not look at the items. -/
theorem mergeSort_map_items {β : Type} (entries : Entries α) (f : α → β) :
    (entries.map fun entry => (entry.1, f entry.2)).mergeSort byKey =
      (entries.mergeSort byKey).map fun entry => (entry.1, f entry.2) := by
  symm
  apply List.map_mergeSort
  intro a _ b _
  rfl

end Entries

namespace Value

theorem alikeFields_iff {fields fields' : Entries Value} :
    alikeFields fields fields' = true ↔ ∀ field ∈ fields,
      ∃ item, fields'.lookup field.1 = some item ∧ field.2.alike item = true := by
  refine ⟨fun same => ?_, alikeFields_of_lookup⟩
  induction fields with
  | nil => exact fun field member => absurd member List.not_mem_nil
  | cons field rest ih =>
    rw [alikeFields, Bool.and_eq_true] at same
    refine List.forall_mem_cons.mpr ⟨?_, ih same.2⟩
    cases found : fields'.lookup field.1 with
    | none =>
      rw [found] at same
      exact absurd same.1 Bool.false_ne_true
    | some item =>
      rw [found] at same
      exact ⟨item, rfl, same.1⟩

theorem exists_list_of_alike {items : List Value} {w : Value}
    (same : (list items).alike w = true) :
    ∃ items', w = list items' ∧ alikeItems items items' = true := by
  cases w with
  | list items' =>
    rw [alike] at same
    exact ⟨items', rfl, same⟩
  | _ => simp [alike, alikePlain] at same

theorem exists_object_of_alike {fields : Entries Value} {w : Value}
    (same : (object fields).alike w = true) :
    ∃ fields', w = object fields' ∧ fields.length = fields'.length ∧
      alikeFields fields fields' = true := by
  cases w with
  | object fields' =>
    rw [alike, Bool.and_eq_true, decide_eq_true_iff] at same
    exact ⟨fields', rfl, same⟩
  | _ => simp [alike, alikePlain] at same

private theorem alike_float_iff {x y : Binary64} :
    (float x).alike (float y) = true ↔ x.text Json.spelling = y.text Json.spelling := by
  rw [alike_of_lead? rfl, alikePlain, Bool.or_eq_true, Bool.and_eq_true, decide_eq_true_iff]
  refine ⟨?_, Json.spelling_isClear.eq_of_text⟩
  rintro (rfl | ⟨isNaN, isNaN'⟩)
  · rfl
  · rw [Binary64.text_of_isNaN _ isNaN, Binary64.text_of_isNaN _ isNaN']

/-- Values that are neither lists nor objects are alike only if they are the same, but for the
payload of what is no number. -/
theorem valueText_of_alikePlain {v w : Value} (same : alikePlain v w = true) (depth : Nat) :
    Json.valueText none depth v.canonical = Json.valueText none depth w.canonical := by
  unfold alikePlain at same
  split at same
  · next x y =>
    rw [canonical_of_lead? rfl, canonical_of_lead? rfl, Json.valueText, Json.valueText]
    exact alike_float_iff.mp same
  · rw [of_decide_eq_true same]

theorem map_eq_of_alikeItems {items items' : List Value} {f : Value → List Char}
    (same : alikeItems items items' = true)
    (each : ∀ item ∈ items, ∀ item', item.alike item' = true → f item = f item') :
    items.map f = items'.map f := by
  induction items generalizing items' with
  | nil => cases items' with
    | nil => rfl
    | cons => contradiction
  | cons item rest ih => cases items' with
    | nil => contradiction
    | cons item' rest' =>
      rw [alikeItems, Bool.and_eq_true] at same
      obtain ⟨first, others⟩ := List.forall_mem_cons.mp each
      rw [List.map_cons, List.map_cons, first item' same.1, ih same.2 others]

/-- The fields of an object with their texts, in the order in which they stand. -/
def printedFields (depth : Nat) (fields : Entries Value) : Entries (List Char) :=
  fields.map fun field => (field.1, Json.valueText none depth field.2.canonical)

theorem keys_printedFields (depth : Nat) (fields : Entries Value) :
    (printedFields depth fields).keys = fields.keys := by
  rw [printedFields, Entries.keys, List.map_map]
  rfl

/-- Fields may be printed before they are sorted. -/
theorem map_fieldText_sortedFields (depth : Nat) (fields : Entries Value) :
    (sortedFields (canonicalFields fields)).map (Json.fieldText none depth) =
      ((printedFields depth fields).mergeSort Entries.byKey).map fun part =>
        Json.stringText part.1 ++ ':' :: ' ' :: part.2 := by
  have sorted : sortedFields (canonicalFields fields) =
      (fields.mergeSort Entries.byKey).map fun field => (field.1, field.2.canonical) := by
    rw [canonicalFields_eq_map, ← Entries.mergeSort_map_items]
    rfl
  rw [sorted, printedFields, Entries.mergeSort_map_items fields fun item =>
    Json.valueText none depth item.canonical, List.map_map, List.map_map]
  rfl

/-- Fields that are alike one by one are the same when they are printed, but for their order. -/
private theorem printedFields_perm {depth : Nat} {fields fields' : Entries Value}
    (distinct : fields.keys.Nodup) (lengths : fields.length = fields'.length)
    (each : ∀ field ∈ fields, ∃ item, fields'.lookup field.1 = some item ∧
      Json.valueText none depth field.2.canonical = Json.valueText none depth item.canonical) :
    (printedFields depth fields).Perm (printedFields depth fields') := by
  have nodup : (printedFields depth fields).Nodup := by
    rw [← keys_printedFields depth] at distinct
    exact distinct.of_map _
  have subset : printedFields depth fields ⊆ printedFields depth fields' := by
    refine List.forall_mem_map.mpr fun field member => ?_
    obtain ⟨item, found, text⟩ := each field member
    exact List.mem_map.mpr ⟨_, Entries.mem_of_lookup found, by rw [text]⟩
  refine (nodup.subperm subset).perm_of_length_le ?_
  simp [printedFields, lengths]

/-- Canonical forms of alike values have one text. -/
theorem valueText_canonical_of_alike {v w : Value} (h : v.isWellKeyed = true)
    (same : v.alike w = true) (depth : Nat) :
    Json.valueText none depth v.canonical = Json.valueText none depth w.canonical := by
  induction v using Value.induction generalizing w depth with
  | list items ih =>
    obtain ⟨items', rfl, same⟩ := exists_list_of_alike same
    have texts : (items.map fun item => Json.valueText none (depth + 1) item.canonical) =
        items'.map fun item => Json.valueText none (depth + 1) item.canonical :=
      map_eq_of_alikeItems same fun item member item' same =>
        ih item member (isWellKeyed_list_iff.mp h item member) same (depth + 1)
    rw [canonical, canonical, canonicalItems_eq_map, canonicalItems_eq_map, Json.valueText_list,
      Json.valueText_list, List.map_map, List.map_map]
    exact congrArg _ texts
  | object fields ih =>
    obtain ⟨fields', rfl, lengths, same⟩ := exists_object_of_alike same
    obtain ⟨distinct, inside⟩ := isWellKeyed_object_iff.mp h
    have perm : (printedFields (depth + 1) fields).Perm (printedFields (depth + 1) fields') := by
      refine printedFields_perm distinct lengths fun field member => ?_
      obtain ⟨item, found, same⟩ := alikeFields_iff.mp same field member
      exact ⟨item, found, ih field member (inside field member) same (depth + 1)⟩
    rw [← keys_printedFields (depth + 1)] at distinct
    rw [canonical, canonical, Json.valueText_object, Json.valueText_object,
      map_fieldText_sortedFields, map_fieldText_sortedFields,
      Entries.mergeSort_eq_of_perm distinct perm]
  | str s =>
    rw [alike] at same
    · exact valueText_of_alikePlain same depth
    all_goals simp
  | _ =>
    rw [alike_of_lead? rfl] at same
    exact valueText_of_alikePlain same depth

private theorem eq_str_of_alike {s : String} {w : Value} (same : (str s).alike w = true) :
    w = str s := by
  cases w with
  | str t => simpa [alike, alikePlain, eq_comm] using same
  | _ => simp [alike, alikePlain] at same

theorem keyText_of_alike {v w : Value} (h : v.isWellKeyed = true) (same : v.alike w = true) :
    v.keyText = w.keyText := by
  by_cases text : ∃ s, v = str s
  · obtain ⟨s, rfl⟩ := text
    rw [eq_str_of_alike same]
  · have other' : ∀ s, w ≠ str s := by
      rintro s rfl
      cases v with
      | str t => exact text ⟨t, rfl⟩
      | _ => simp [alike, alikePlain] at same
    rw [keyText_of_not_str (not_exists.mp text), keyText_of_not_str other', Json.text, Json.text,
      valueText_canonical_of_alike h same]

/-- What one key says of two values. -/
theorem keyText_eq_iff {v w : Value} (h : v.isWellKeyed = true) (h' : w.isWellKeyed = true) :
    v.keyText = w.keyText ↔ v.alike w = true ∨ v.spells w ∨ w.spells v := by
  refine ⟨alike_or_spells_of_keyText h h', ?_⟩
  rintro (same | ⟨rfl, other⟩ | ⟨rfl, other⟩)
  · exact keyText_of_alike h same
  · exact (keyText_of_not_str other).symm
  · exact keyText_of_not_str other

/-- Two values that are no text, and that can be written, have one key exactly if they are equal
up to the order of keys. -/
theorem key_eq_iff_alike {v w : Value} (h : v.isWellKeyed = true) (h' : w.isWellKeyed = true)
    (other : ∀ s, v ≠ str s) (other' : ∀ s, w ≠ str s) {room : Nat} (writes : v.IsWritable room)
    (writes' : w.IsWritable room) :
    ∃ key key', v.key room = .ok key ∧ w.key room = .ok key' ∧
      (key = key' ↔ v.alike w = true) := by
  refine ⟨_, _, key_of_isWritable writes, key_of_isWritable writes', ?_⟩
  rw [keyText_eq_iff h h']
  refine ⟨?_, Or.inl⟩
  rintro (same | ⟨spelled, -⟩ | ⟨spelled, -⟩)
  · exact same
  · exact absurd spelled (other _)
  · exact absurd spelled (other' _)

example :
    (int 1).alike (float ⟨0x3ff0000000000000⟩) = false ∧ (int 1).alike (bool true) = false := by
  decide

/-- A shadow with keys in disorder inside of a list, and text that looks like a bracket. -/
def shadow : Value :=
  .object [
    ("offset", .list [.int (-2), .object [("y", .float ⟨0x3ff0000000000000⟩), ("x", .null)]]),
    ("\"ink\"", .str "\x7d\n")]

/-- The same with its keys the other way around, at both depths. -/
def shadowReordered : Value :=
  .object [
    ("\"ink\"", .str "\x7d\n"),
    ("offset", .list [.int (-2), .object [("x", .null), ("y", .float ⟨0x3ff0000000000000⟩)]])]

theorem key_shadow :
    shadow.isWellKeyed = true ∧ shadowReordered.isWellKeyed = true ∧
      (∀ s, shadow ≠ str s) ∧ (∀ s, shadowReordered ≠ str s) ∧ shadow.IsWritable 3 ∧
      shadowReordered.IsWritable 3 ∧
      (∃ key key', shadow.key 3 = .ok key ∧ shadowReordered.key 3 = .ok key' ∧
        (key = key' ↔ shadow.alike shadowReordered = true)) ∧
      shadow.alike shadowReordered = true := by
  have h : shadow.isWellKeyed = true := by decide
  have h' : shadowReordered.isWellKeyed = true := by decide
  have writes : shadow.IsWritable 3 := by decide +kernel
  have writes' : shadowReordered.IsWritable 3 := by decide +kernel
  exact ⟨h, h', nofun, nofun, writes, writes',
    key_eq_iff_alike h h' nofun nofun writes writes', by decide⟩

theorem isWellKeyed_tower (floors : Nat) : (tower floors).isWellKeyed = true := by
  induction floors with
  | zero => rfl
  | succ floors ih => exact isWellKeyed_list_iff.mpr (List.forall_mem_singleton.mpr ih)

/-- Values that are the same and have no key: one for its digits, one for its depth. -/
theorem no_key_unwritable :
    (longInteger.alike longInteger = true ∧ ¬∃ key, longInteger.key 900 = .ok key) ∧
      (tower 900).alike (tower 900) = true ∧ ¬∃ key, (tower 900).key 900 = .ok key := by
  have keyed := isWellKeyed_tower 900
  refine ⟨⟨@alike_of_canonical 0 0 _ _ rfl rfl rfl, ?_⟩,
    @alike_of_canonical 0 0 _ _ keyed keyed rfl, ?_⟩
  · rw [exists_key_iff]
    exact not_isWritable_longInteger 900
  · rw [exists_key_iff]
    exact not_isWritable_tower (Nat.le_refl 900)

end Value

end DesignTokens
