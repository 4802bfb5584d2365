import DesignTokens.Json.Printer
import DesignTokens.Json.Reader
import DesignTokens.Proofs.Value.WellKeyed

/-! What can be written: the values that nest no deeper than there is room, and in which no
integer has too many digits. -/
namespace DesignTokens

namespace Value

mutual

/-- What a value holds that holds nothing itself. -/
def scalars : Value → List Value
  | .list items => scalarsIn items
  | .object fields => scalarsUnder fields
  | scalar => [scalar]

def scalarsIn : List Value → List Value
  | [] => []
  | item :: rest => item.scalars ++ scalarsIn rest

def scalarsUnder : Entries Value → List Value
  | [] => []
  | (_, item) :: rest => item.scalars ++ scalarsUnder rest

end

theorem scalars_list (items : List Value) : (list items).scalars = items.flatMap scalars := by
  rw [scalars]
  induction items with
  | nil => rfl
  | cons item rest ih => rw [scalarsIn, ih, List.flatMap_cons]

theorem scalars_object (fields : Entries Value) :
    (object fields).scalars = fields.flatMap fun field => field.2.scalars := by
  rw [scalars]
  induction fields with
  | nil => rfl
  | cons field rest ih => rw [scalarsUnder, ih, List.flatMap_cons]

/-- There is room for the value, and its integers can be written. -/
structure IsWritable (room : Nat) (value : Value) : Prop where
  nesting : value.nesting ≤ room
  integers : ∀ scalar ∈ value.scalars, Json.isTooLarge (some Numeral.bound) scalar = false

section

variable {room : Nat} {items : List Value} {fields : Entries Value}

private theorem nestingOfItems_le_iff :
    nestingOfItems items ≤ room ↔ ∀ item ∈ items, item.nesting ≤ room := by
  induction items with
  | nil => exact iff_of_true (Nat.zero_le room) fun _ member => absurd member List.not_mem_nil
  | cons item rest ih => rw [nestingOfItems, Nat.max_le, ih, List.forall_mem_cons]

private theorem nestingOfFields_le_iff :
    nestingOfFields fields ≤ room ↔ ∀ field ∈ fields, field.2.nesting ≤ room := by
  induction fields with
  | nil => exact iff_of_true (Nat.zero_le room) fun _ member => absurd member List.not_mem_nil
  | cons field rest ih => rw [nestingOfFields, Nat.max_le, ih, List.forall_mem_cons]

theorem isWritable_list_iff :
    (list items).IsWritable (room + 1) ↔ ∀ item ∈ items, item.IsWritable room := by
  have inside : (list items).nesting ≤ room + 1 ↔ ∀ item ∈ items, item.nesting ≤ room := by
    rw [nesting, Nat.add_le_add_iff_right, nestingOfItems_le_iff]
  constructor
  · rintro ⟨nesting, integers⟩ item member
    rw [scalars_list, List.forall_mem_flatMap] at integers
    exact ⟨inside.mp nesting item member, integers item member⟩
  · intro each
    refine ⟨inside.mpr fun item member => (each item member).nesting, ?_⟩
    rw [scalars_list, List.forall_mem_flatMap]
    exact fun item member => (each item member).integers

theorem isWritable_object_iff :
    (object fields).IsWritable (room + 1) ↔ ∀ field ∈ fields, field.2.IsWritable room := by
  have inside : (object fields).nesting ≤ room + 1 ↔ ∀ field ∈ fields, field.2.nesting ≤ room := by
    rw [nesting, Nat.add_le_add_iff_right, nestingOfFields_le_iff]
  constructor
  · rintro ⟨nesting, integers⟩ field member
    rw [scalars_object, List.forall_mem_flatMap] at integers
    exact ⟨inside.mp nesting field member, integers field member⟩
  · intro each
    refine ⟨inside.mpr fun field member => (each field member).nesting, ?_⟩
    rw [scalars_object, List.forall_mem_flatMap]
    exact fun field member => (each field member).integers

theorem not_isWritable_list_zero : ¬(list items).IsWritable 0 :=
  fun writes => absurd writes.nesting (Nat.not_succ_le_zero _)

theorem not_isWritable_object_zero : ¬(object fields).IsWritable 0 :=
  fun writes => absurd writes.nesting (Nat.not_succ_le_zero _)

theorem IsWritable.mono {value : Value} (writes : value.IsWritable room) {room' : Nat}
    (more : room ≤ room') : value.IsWritable room' :=
  ⟨Nat.le_trans writes.nesting more, writes.integers⟩

/-- What is inside of a value that can be written can be written. -/
theorem IsWritable.item (writes : (list items).IsWritable room) {item : Value}
    (member : item ∈ items) : item.IsWritable room := by
  cases room with
  | zero => exact absurd writes not_isWritable_list_zero
  | succ room => exact (isWritable_list_iff.mp writes item member).mono (Nat.le_succ room)

theorem IsWritable.field (writes : (object fields).IsWritable room) {field : String × Value}
    (member : field ∈ fields) : field.2.IsWritable room := by
  cases room with
  | zero => exact absurd writes not_isWritable_object_zero
  | succ room => exact (isWritable_object_iff.mp writes field member).mono (Nat.le_succ room)

theorem isWritable_int_iff {n : Int} : (int n).IsWritable room ↔ Numeral.isWritable n = true := by
  have small : Json.isTooLarge (some Numeral.bound) (int n) = false ↔
      Numeral.isWritable n = true := by
    simp [Json.isTooLarge, Numeral.isWritable]
  constructor
  · exact fun writes => small.mp (writes.integers _ List.mem_cons_self)
  · exact fun writes => ⟨Nat.zero_le room, List.forall_mem_singleton.mpr (small.mpr writes)⟩

theorem isWritable_str (s : String) : (str s).IsWritable room :=
  ⟨Nat.zero_le room, List.forall_mem_singleton.mpr rfl⟩

end

end Value

namespace Json

variable {room : Nat} {value : Value}

private theorem unwritableItem?_eq_none_iff {items : List Value} :
    unwritableItem? room items = none ↔ ∀ item ∈ items, unwritable? room item = none := by
  induction items with
  | nil => exact iff_of_true rfl fun _ member => absurd member List.not_mem_nil
  | cons item rest ih => rw [unwritableItem?, Option.or_eq_none_iff, ih, List.forall_mem_cons]

private theorem unwritableField?_eq_none_iff {fields : Entries Value} :
    unwritableField? room fields = none ↔ ∀ field ∈ fields, unwritable? room field.2 = none := by
  induction fields with
  | nil => exact iff_of_true rfl fun _ member => absurd member List.not_mem_nil
  | cons field rest ih => rw [unwritableField?, Option.or_eq_none_iff, ih, List.forall_mem_cons]

theorem unwritable?_eq_none_iff : unwritable? room value = none ↔ value.IsWritable room := by
  induction value using Value.induction generalizing room with
  | list items ih =>
    cases room with
    | zero => exact iff_of_false nofun Value.not_isWritable_list_zero
    | succ room =>
      rw [unwritable?, unwritableItem?_eq_none_iff, Value.isWritable_list_iff]
      exact forall₂_congr fun item member => ih item member
  | object fields ih =>
    cases room with
    | zero => exact iff_of_false nofun Value.not_isWritable_object_zero
    | succ room =>
      rw [unwritable?, unwritableField?_eq_none_iff, Value.isWritable_object_iff]
      exact forall₂_congr fun field member => ih field member
  | int n =>
    rw [unwritable?, Value.isWritable_int_iff]
    cases Numeral.isWritable n <;> simp
  | null | bool | float | str =>
    refine iff_of_true ?_ ⟨Nat.zero_le room, List.forall_mem_singleton.mpr rfl⟩
    rw [unwritable?]
    all_goals nofun

instance (room : Nat) (value : Value) : Decidable (value.IsWritable room) :=
  decidable_of_iff _ unwritable?_eq_none_iff

theorem print_eq_ok_iff {indent : Indent} {written : String} :
    print room indent value = .ok written ↔
      value.IsWritable room ∧ text indent value = written := by
  rw [print, ← unwritable?_eq_none_iff]
  cases unwritable? room value <;> simp

theorem exists_print_iff {indent : Indent} :
    (∃ written, print room indent value = .ok written) ↔ value.IsWritable room := by
  simp only [print_eq_ok_iff, exists_and_left, exists_eq', and_true]

end Json

end DesignTokens
