import DesignTokens.Proofs.Value.Substitution

/-! Places inside a value, reached through lists and objects only. Writing at a place always
succeeds and changes none of the places apart from it, and the references of a value stand
at places that are apart. -/
namespace DesignTokens

/-- Neither location leads through the other. -/
def Apart (location other : Location) : Prop := ¬ location <+: other ∧ ¬ other <+: location

theorem Apart.symm {location other : Location} (apart : Apart location other) :
    Apart other location := ⟨apart.2, apart.1⟩

theorem not_apart_nil (location : Location) : ¬ Apart [] location :=
  fun apart => apart.1 List.nil_prefix

theorem apart_cons_iff {step step' : Step} {rest rest' : Location} :
    Apart (step :: rest) (step' :: rest') ↔ step = step' → Apart rest rest' := by
  unfold Apart
  rw [List.cons_prefix_cons, List.cons_prefix_cons]
  by_cases same : step = step'
  · simp [same]
  · simp [same, Ne.symm same]

namespace Value

/-- The step leads to the item, a position being counted from the front. -/
inductive Holds : Value → Step → Value → Prop where
  | item {items : List Value} {position : Nat} {inner : Value}
      (found : items[position]? = some inner) : Holds (.list items) (.index position) inner
  | field {fields : Entries Value} {key : String} {inner : Value}
      (found : fields.lookup key = some inner) : Holds (.object fields) (.key key) inner

/-- The value with another item behind a step that leads to one. -/
def exchange : Value → Step → Value → Value
  | .list items, .index i, item => .list (items.set i.toNat item)
  | .object fields, .key key, item => .object (Entries.put key item fields)
  | value, _, _ => value

namespace Holds

variable {value inner inner' : Value} {step step' : Step}

theorem child (holds : value.Holds step inner) : value.child step = .ok inner := by
  cases holds with
  | item found =>
    obtain ⟨within, -⟩ := List.getElem?_eq_some_iff.mp found
    simp only [Value.child, position?_natCast within, found]
    rfl
  | field found =>
    simp only [Value.child, found]
    rfl

theorem unique (holds : value.Holds step inner) (again : value.Holds step inner') :
    inner = inner' :=
  Except.ok.inj (holds.child.symm.trans again.child)

theorem replaceChild (holds : value.Holds step inner) (item : Value) :
    value.replaceChild step item = .ok (value.exchange step item) := by
  cases holds with
  | item found =>
    obtain ⟨within, -⟩ := List.getElem?_eq_some_iff.mp found
    simp only [Value.replaceChild, position?_natCast within]
    rfl
  | field found => rfl

theorem exchange (holds : value.Holds step inner) (item : Value) :
    (value.exchange step item).Holds step item := by
  cases holds with
  | item found =>
    obtain ⟨within, -⟩ := List.getElem?_eq_some_iff.mp found
    exact .item (List.getElem?_set_self within)
  | field found => exact .field (Entries.lookup_put_self ..)

theorem exchange_of_ne (holds : value.Holds step inner) (different : step ≠ step')
    (other : value.Holds step' inner') (item : Value) :
    (value.exchange step item).Holds step' inner' := by
  cases holds with
  | item found =>
    cases other with
    | item found' =>
      refine .item ((List.getElem?_set_ne ?_).trans found')
      rintro rfl
      exact different rfl
  | field found =>
    cases other with
    | field found' =>
      refine .field ((Entries.lookup_put_of_ne _ _ ?_).trans found')
      rintro rfl
      exact different rfl

end Holds

/-- The location leads to the part, positions in lists counted from the front. -/
inductive HoldsAt : Value → Location → Value → Prop where
  | here (value : Value) : HoldsAt value [] value
  | item {items : List Value} {position : Nat} {inner part : Value} {rest : Location}
      (found : items[position]? = some inner) (inside : HoldsAt inner rest part) :
      HoldsAt (.list items) (.index position :: rest) part
  | field {fields : Entries Value} {key : String} {inner part : Value} {rest : Location}
      (found : fields.lookup key = some inner) (inside : HoldsAt inner rest part) :
      HoldsAt (.object fields) (.key key :: rest) part

theorem holdsAt_cons_iff {value part : Value} {step : Step} {rest : Location} :
    value.HoldsAt (step :: rest) part ↔
      ∃ inner, value.Holds step inner ∧ inner.HoldsAt rest part := by
  constructor
  · rintro (_ | ⟨found, inside⟩ | ⟨found, inside⟩)
    · exact ⟨_, .item found, inside⟩
    · exact ⟨_, .field found, inside⟩
  · rintro ⟨inner, ⟨found⟩ | ⟨found⟩, inside⟩
    · exact .item found inside
    · exact .field found inside

theorem HoldsAt.get {value part : Value} {location : Location}
    (holds : value.HoldsAt location part) : value.get location = .ok part := by
  induction location generalizing value with
  | nil =>
    cases holds
    rfl
  | cons step rest ih =>
    obtain ⟨inner, found, inside⟩ := holdsAt_cons_iff.mp holds
    rw [Value.get, found.child]
    exact ih inside

/-- Writes at a location, or in place of the whole value. -/
def write (value : Value) (location : Location) (item : Value) : Except AccessError Value :=
  if location = [] then .ok item else value.set location item

theorem write_of_ne_nil {location : Location} (inside : location ≠ []) (value item : Value) :
    value.write location item = value.set location item := if_neg inside

theorem write_of_child {value inner : Value} {step : Step} (found : value.child step = .ok inner)
    (rest : Location) (item : Value) :
    value.write (step :: rest) item = (inner.write rest item).bind (value.replaceChild step) := by
  cases rest with
  | nil => rfl
  | cons next rest =>
    rw [write_of_ne_nil (List.cons_ne_nil _ _), write_of_ne_nil (List.cons_ne_nil _ _), set, found]
    rfl

theorem Holds.write_cons {value inner inner' item : Value} {step : Step} {rest : Location}
    (holds : value.Holds step inner) (written : inner.write rest item = .ok inner') :
    value.write (step :: rest) item = .ok (value.exchange step inner') := by
  rw [write_of_child holds.child, written]
  exact holds.replaceChild inner'

/-- The changed value holds the new item, and whatever stood apart from it stands there still. -/
structure Replaces (value : Value) (location : Location) (item changed : Value) : Prop where
  held : changed.HoldsAt location item
  others : ∀ {other part}, Apart location other → value.HoldsAt other part →
    changed.HoldsAt other part

theorem replaces_here (value item : Value) : Replaces value [] item item where
  held := .here item
  others apart := absurd apart (not_apart_nil _)

theorem Holds.replaces {value inner inner' item : Value} {step : Step} {rest : Location}
    (holds : value.Holds step inner) (below : Replaces inner rest item inner') :
    Replaces value (step :: rest) item (value.exchange step inner') where
  held := holdsAt_cons_iff.mpr ⟨inner', holds.exchange inner', below.held⟩
  others {other part} apart there := by
    cases other with
    | nil => exact absurd apart.symm (not_apart_nil _)
    | cons step' rest' =>
      obtain ⟨old, found, inside⟩ := holdsAt_cons_iff.mp there
      rw [apart_cons_iff] at apart
      by_cases same : step = step'
      · subst same
        obtain rfl := holds.unique found
        exact holdsAt_cons_iff.mpr
          ⟨inner', holds.exchange inner', below.others (apart rfl) inside⟩
      · exact holdsAt_cons_iff.mpr ⟨old, holds.exchange_of_ne same found inner', inside⟩

theorem HoldsAt.exists_write {value old : Value} {location : Location}
    (holds : value.HoldsAt location old) (item : Value) :
    ∃ changed, value.write location item = .ok changed ∧ Replaces value location item changed := by
  induction location generalizing value with
  | nil => exact ⟨item, rfl, replaces_here value item⟩
  | cons step rest ih =>
    obtain ⟨inner, found, inside⟩ := holdsAt_cons_iff.mp holds
    obtain ⟨inner', written, below⟩ := ih inside
    exact ⟨_, found.write_cons written, found.replaces below⟩

theorem HoldsAt.exists_set {value old : Value} {location : Location}
    (holds : value.HoldsAt location old) (inside : location ≠ []) (item : Value) :
    ∃ changed, value.set location item = .ok changed ∧ Replaces value location item changed := by
  obtain ⟨changed, written, replaces⟩ := holds.exists_write item
  rw [write_of_ne_nil inside] at written
  exact ⟨changed, written, replaces⟩

/-- Sites of which none leads through another. -/
def AllApart (sites : List ReferenceSite) : Prop :=
  sites.Pairwise fun site other => Apart site.location other.location

theorem AllApart.under {sites : List ReferenceSite} (apart : AllApart sites) (step : Step) :
    AllApart (sites.map (·.under step)) := by
  unfold AllApart
  rw [List.pairwise_map]
  exact apart.imp fun apart => apart_cons_iff.mpr fun _ => apart

private theorem allApart_itemReferences {items : List Value}
    (each : ∀ item ∈ items, AllApart item.references) (position : Nat) :
    AllApart (itemReferences position items) := by
  induction items generalizing position with
  | nil => exact .nil
  | cons item rest ih =>
    obtain ⟨first, others⟩ := List.forall_mem_cons.mp each
    rw [itemReferences]
    refine List.pairwise_append.mpr ⟨first.under _, ih others (position + 1), ?_⟩
    intro site here other later
    obtain ⟨inner, -, rfl⟩ := List.mem_map.mp here
    obtain ⟨before, -, after, -, inner', -, rfl⟩ := mem_itemReferences later
    refine apart_cons_iff.mpr fun same => ?_
    simp only [Step.index.injEq] at same
    omega

private theorem allApart_fieldReferences {fields : Entries Value} (distinct : fields.keys.Nodup)
    (each : ∀ field ∈ fields, AllApart field.2.references) :
    AllApart (fieldReferences fields) := by
  induction fields with
  | nil => exact .nil
  | cons field rest ih =>
    obtain ⟨key, item⟩ := field
    obtain ⟨new, distinct⟩ := List.nodup_cons.mp distinct
    obtain ⟨first, others⟩ := List.forall_mem_cons.mp each
    rw [fieldReferences]
    refine List.pairwise_append.mpr ⟨first.under _, ih distinct others, ?_⟩
    intro site here other later
    obtain ⟨inner, -, rfl⟩ := List.mem_map.mp here
    obtain ⟨before, key', item', after, rfl, inner', -, rfl⟩ := mem_fieldReferences later
    refine apart_cons_iff.mpr fun same => ?_
    obtain rfl := Step.key.inj same
    exact absurd (List.mem_map.mpr ⟨(key, item'), by simp, rfl⟩) new

theorem allApart_references {value : Value} (h : value.isWellKeyed = true) :
    AllApart value.references := by
  induction value using Value.induction with
  | list items ih =>
    rw [isWellKeyed_list_iff] at h
    rw [references]
    exact allApart_itemReferences (fun item member => ih item member (h item member)) 0
  | object fields ih =>
    rw [isWellKeyed_object_iff] at h
    rw [references]
    exact allApart_fieldReferences h.1 fun field member => ih field member (h.2 field member)
  | str text =>
    rw [references_str]
    cases Reference.parse? text with
    | none => exact .nil
    | some reference => exact List.pairwise_singleton _ _
  | _ => simp [references, Reference.ofValue?, AllApart]

end Value

end DesignTokens
