import DesignTokens.Proofs.Entries
import DesignTokens.Resolution
import DesignTokens.Value.Agreement

/-! Values in which no object holds a key twice, as every mapping that is read does.
Reading and writing inside such a value stays among them, and such a value agrees
with itself. -/
namespace DesignTokens

namespace Value

section

variable {motive : Value → Prop} (null : motive .null) (bool : ∀ b, motive (.bool b))
  (int : ∀ n, motive (.int n)) (float : ∀ x, motive (.float x)) (str : ∀ s, motive (.str s))
  (list : ∀ items, (∀ item ∈ items, motive item) → motive (.list items))
  (object : ∀ fields : Entries Value, (∀ field ∈ fields, motive field.2) → motive (.object fields))

include null bool int float str list object

/-- Through the items of lists and the fields of objects. -/
theorem induction : ∀ value, motive value
  | .null => null
  | .bool b => bool b
  | .int n => int n
  | .float x => float x
  | .str s => str s
  | .list items => list items fun item _ => induction item
  | .object fields => object fields fun field _ => induction field.2
termination_by value => sizeOf value
decreasing_by
  · have smaller := List.sizeOf_lt_of_mem ‹_›
    simp only [Value.list.sizeOf_spec]
    omega
  · have smaller := List.sizeOf_lt_of_mem ‹field ∈ fields›
    obtain ⟨key, item⟩ := field
    simp only [Value.object.sizeOf_spec, Prod.mk.sizeOf_spec] at smaller ⊢
    omega

end

mutual

/-- Whether no object inside holds a key twice. -/
def isWellKeyed : Value → Bool
  | .list items => areWellKeyed items
  | .object fields => decide (Entries.keys fields).Nodup && fieldsAreWellKeyed fields
  | _ => true

def areWellKeyed : List Value → Bool
  | [] => true
  | item :: rest => item.isWellKeyed && areWellKeyed rest

def fieldsAreWellKeyed : Entries Value → Bool
  | [] => true
  | (_, item) :: rest => item.isWellKeyed && fieldsAreWellKeyed rest

end

private theorem areWellKeyed_iff {items : List Value} :
    areWellKeyed items = true ↔ ∀ item ∈ items, item.isWellKeyed = true := by
  induction items with
  | nil => exact iff_of_true rfl fun _ member => absurd member List.not_mem_nil
  | cons item rest ih => rw [areWellKeyed, Bool.and_eq_true, ih, List.forall_mem_cons]

private theorem fieldsAreWellKeyed_iff {fields : Entries Value} :
    fieldsAreWellKeyed fields = true ↔ ∀ field ∈ fields, field.2.isWellKeyed = true := by
  induction fields with
  | nil => exact iff_of_true rfl fun _ member => absurd member List.not_mem_nil
  | cons field rest ih =>
    obtain ⟨key, item⟩ := field
    rw [fieldsAreWellKeyed, Bool.and_eq_true, ih, List.forall_mem_cons]

theorem isWellKeyed_list_iff {items : List Value} :
    (list items).isWellKeyed = true ↔ ∀ item ∈ items, item.isWellKeyed = true := by
  rw [isWellKeyed, areWellKeyed_iff]

theorem isWellKeyed_object_iff {fields : Entries Value} :
    (object fields).isWellKeyed = true ↔
      fields.keys.Nodup ∧ ∀ field ∈ fields, field.2.isWellKeyed = true := by
  rw [isWellKeyed, Bool.and_eq_true, decide_eq_true_iff, fieldsAreWellKeyed_iff]

theorem isWellKeyed_of_lookup {fields : Entries Value} (h : (object fields).isWellKeyed = true)
    {key : String} {item : Value} (found : fields.lookup key = some item) :
    item.isWellKeyed = true :=
  (isWellKeyed_object_iff.mp h).2 _ (Entries.mem_of_lookup found)

/-- Writing under a known key keeps the keys as they are. -/
theorem isWellKeyed_put {fields : Entries Value} (key : String) {item : Value}
    (h : (object fields).isWellKeyed = true) (new : item.isWellKeyed = true) :
    (object (fields.put key item)).isWellKeyed = true := by
  rw [isWellKeyed_object_iff] at h ⊢
  refine ⟨Entries.nodup_keys_put h.1 .., ?_⟩
  intro field member
  rcases Entries.mem_put member with rfl | old
  · exact new
  · exact h.2 field old

theorem isWellKeyed_child {value child : Value} {step : Step} (h : value.isWellKeyed = true)
    (found : value.child step = .ok child) : child.isWellKeyed = true := by
  unfold Value.child at found
  split at found
  · next items i =>
    split at found
    · next n position =>
      cases item : items[n]? with
      | none => rw [item] at found; contradiction
      | some other =>
        rw [item] at found
        obtain rfl : other = child := Except.ok.inj found
        exact isWellKeyed_list_iff.mp h other (List.mem_of_getElem? item)
    · contradiction
  · next fields key =>
    cases item : fields.lookup key with
    | none => rw [item] at found; contradiction
    | some other =>
      rw [item] at found
      obtain rfl : other = child := Except.ok.inj found
      exact isWellKeyed_of_lookup h item
  · contradiction
  · split at found
    · obtain rfl := Except.ok.inj found
      rfl
    · contradiction
  · contradiction

theorem isWellKeyed_replaceChild {value changed item : Value} {step : Step}
    (h : value.isWellKeyed = true) (new : item.isWellKeyed = true)
    (written : value.replaceChild step item = .ok changed) : changed.isWellKeyed = true := by
  unfold replaceChild at written
  split at written
  · split at written
    · obtain rfl := Except.ok.inj written
      rw [isWellKeyed_list_iff] at h ⊢
      intro other member
      rcases List.mem_or_eq_of_mem_set member with old | rfl
      · exact h other old
      · exact new
    · contradiction
  · obtain rfl := Except.ok.inj written
    exact isWellKeyed_put _ h new
  · contradiction

theorem isWellKeyed_set {value changed item : Value} {location : Location}
    (h : value.isWellKeyed = true) (new : item.isWellKeyed = true)
    (written : value.set location item = .ok changed) : changed.isWellKeyed = true := by
  induction location generalizing value changed with
  | nil => contradiction
  | cons step rest ih =>
    cases rest with
    | nil => exact isWellKeyed_replaceChild h new written
    | cons next rest =>
      unfold set at written
      cases found : value.child step with
      | error e => rw [found] at written; contradiction
      | ok child =>
        rw [found] at written
        cases inner : child.set (next :: rest) item with
        | error e =>
          simp only [inner, bind, Except.bind] at written
          contradiction
        | ok replaced =>
          simp only [inner, bind, Except.bind] at written
          exact isWellKeyed_replaceChild h (ih (isWellKeyed_child h found) inner) written

theorem isWellKeyed_splice {value item : Value} (location : Location)
    (h : value.isWellKeyed = true) (new : item.isWellKeyed = true) :
    (splice value location item).isWellKeyed = true := by
  unfold splice
  split
  · next changed written => exact isWellKeyed_set h new written
  · exact h

theorem agreesPlain_refl (value : Value) : value.agreesPlain value = true := by
  unfold agreesPlain
  split
  · next m n first second =>
    obtain rfl : m = n := Option.some.inj (first.symm.trans second)
    exact m.agrees_refl
  · exact decide_eq_true rfl

private theorem agreesItems_refl {items : List Value}
    (agree : ∀ item ∈ items, item.agrees item = true) :
    agreesItems items items = true := by
  induction items with
  | nil => rfl
  | cons item rest ih =>
    obtain ⟨first, others⟩ := List.forall_mem_cons.mp agree
    rw [agreesItems, first, ih others]
    rfl

private theorem agreesFields_of_subset {fields whole : Entries Value} (distinct : whole.keys.Nodup)
    (part : fields ⊆ whole) (agree : ∀ field ∈ whole, field.2.agrees field.2 = true) :
    agreesFields fields whole = true := by
  induction fields with
  | nil => rfl
  | cons field rest ih =>
    obtain ⟨key, item⟩ := field
    have member : (key, item) ∈ whole := part List.mem_cons_self
    rw [agreesFields, Entries.lookup_of_mem distinct member,
      ih fun _ later => part (List.mem_cons_of_mem _ later)]
    exact (Bool.and_true _).trans (agree _ member)

theorem agrees_refl (value : Value) (h : value.isWellKeyed = true) :
    value.agrees value = true := by
  induction value using Value.induction with
  | list items ih =>
    rw [agrees]
    exact agreesItems_refl fun item member => ih item member (isWellKeyed_list_iff.mp h item member)
  | object fields ih =>
    obtain ⟨distinct, inside⟩ := isWellKeyed_object_iff.mp h
    rw [agrees, decide_eq_true rfl, Bool.true_and]
    exact agreesFields_of_subset distinct (List.Subset.refl fields)
      fun field member => ih field member (inside field member)
  | _ =>
    simp only [agrees]
    exact agreesPlain_refl _

end Value

theorem Resolution.agrees_refl (outcome : Resolution) (h : outcome.value.isWellKeyed = true) :
    outcome.agrees outcome = true := by
  unfold Resolution.agrees
  rw [decide_eq_true_iff]
  exact ⟨rfl, rfl, Value.agrees_refl _ h⟩

end DesignTokens
