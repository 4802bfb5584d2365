import DesignTokens.Proofs.Value.Place

/-! The parts of a value in the order they are written, and its sites among them: every text
strictly inside the value that is a reference, each once. -/
namespace DesignTokens.Value

def Part.under (step : Step) (part : Part) : Part := { part with location := step :: part.location }

mutual

/-- The value and all that it holds, each part before those inside it. -/
def parts : Value → List Part
  | .list items => ⟨[], .list items⟩ :: partsOfItems 0 items
  | .object fields => ⟨[], .object fields⟩ :: partsOfFields fields
  | value => [⟨[], value⟩]

def partsOfItems (position : Nat) : List Value → List Part
  | [] => []
  | item :: rest =>
    (parts item).map (·.under (.index position)) ++ partsOfItems (position + 1) rest

def partsOfFields : Entries Value → List Part
  | [] => []
  | (key, item) :: rest => (parts item).map (·.under (.key key)) ++ partsOfFields rest

end

private theorem mem_partsOfItems {part : Part} {position : Nat} {items : List Value} :
    part ∈ partsOfItems position items ↔ ∃ (index : Nat) (item : Value),
      items[index]? = some item ∧
        ∃ inner ∈ item.parts, part = inner.under (.index (position + index : Nat)) := by
  induction items generalizing position with
  | nil => simp [partsOfItems]
  | cons item rest ih =>
    rw [partsOfItems, List.mem_append, List.mem_map, ih]
    constructor
    · rintro (⟨inner, inside, rfl⟩ | ⟨index, other, found, inner, inside, rfl⟩)
      · exact ⟨0, item, rfl, inner, inside, rfl⟩
      · exact ⟨index + 1, other, found, inner, inside, by rw [Nat.add_right_comm, Nat.add_assoc]⟩
    · rintro ⟨index, other, found, inner, inside, rfl⟩
      cases index with
      | zero =>
        obtain rfl := Option.some.inj found
        exact .inl ⟨inner, inside, rfl⟩
      | succ index =>
        exact .inr ⟨index, other, found, inner, inside, by rw [Nat.add_right_comm, Nat.add_assoc]⟩

private theorem mem_partsOfFields {part : Part} {fields : Entries Value} :
    part ∈ partsOfFields fields ↔
      ∃ field ∈ fields, ∃ inner ∈ field.2.parts, part = inner.under (.key field.1) := by
  induction fields with
  | nil => simp [partsOfFields]
  | cons field rest ih =>
    obtain ⟨key, item⟩ := field
    simp [partsOfFields, ih, eq_comm]

/-- The parts are what a location leads to. -/
theorem mem_parts_iff {value : Value} (h : value.isWellKeyed = true) {part : Part} :
    part ∈ value.parts ↔ value.HoldsAt part.location part.value := by
  induction value using Value.induction generalizing part with
  | list items ih =>
    rw [isWellKeyed_list_iff] at h
    rw [parts, List.mem_cons, mem_partsOfItems]
    constructor
    · rintro (rfl | ⟨index, item, found, inner, inside, rfl⟩)
      · exact .here _
      · have held : item ∈ items := List.mem_of_getElem? found
        rw [Nat.zero_add]
        exact .item found ((ih item held (h item held)).mp inside)
    · obtain ⟨location, value⟩ := part
      rintro (_ | @⟨_, index, item, _, rest, found, inside⟩)
      · exact .inl rfl
      · have held : item ∈ items := List.mem_of_getElem? found
        have inner : ⟨rest, value⟩ ∈ item.parts := (ih item held (h item held)).mpr inside
        exact .inr ⟨index, item, found, _, inner, by rw [Nat.zero_add]; rfl⟩
  | object fields ih =>
    obtain ⟨distinct, keyed⟩ := isWellKeyed_object_iff.mp h
    rw [parts, List.mem_cons, mem_partsOfFields]
    constructor
    · rintro (rfl | ⟨field, held, inner, inside, rfl⟩)
      · exact .here _
      · exact .field (Entries.lookup_of_mem distinct held)
          ((ih field held (keyed field held)).mp inside)
    · obtain ⟨location, value⟩ := part
      rintro (_ | _ | @⟨_, key, item, _, rest, found, inside⟩)
      · exact .inl rfl
      · have held : (key, item) ∈ fields := Entries.mem_of_lookup found
        have inner : ⟨rest, value⟩ ∈ item.parts := (ih _ held (keyed _ held)).mpr inside
        exact .inr ⟨_, held, _, inner, rfl⟩
  | _ =>
    obtain ⟨location, value⟩ := part
    simp only [parts, List.mem_singleton]
    constructor
    · intro same
      obtain ⟨rfl, rfl⟩ := Part.mk.inj same
      exact .here _
    · rintro ⟨⟩
      rfl

def Part.reference? (part : Part) : Option ReferenceSite :=
  (Reference.ofValue? part.value).map (⟨part.location, ·⟩)

/-- The site at a part strictly inside a value. -/
def Part.site? (part : Part) : Option ReferenceSite :=
  part.reference?.filter fun _ => part.location ≠ []

theorem filterMap_under (step : Step) (parts : List Part) :
    (parts.map (·.under step)).filterMap Part.reference? =
      (parts.filterMap Part.reference?).map (·.under step) := by
  rw [List.filterMap_map, List.map_filterMap]
  congr 1
  funext part
  simp only [Function.comp_apply, Part.reference?, Part.under, Option.map_map]
  rfl

private theorem itemReferences_eq {items : List Value} (position : Nat)
    (each : ∀ item ∈ items, item.references = item.parts.filterMap Part.reference?) :
    itemReferences position items = (partsOfItems position items).filterMap Part.reference? := by
  induction items generalizing position with
  | nil => rfl
  | cons item rest ih =>
    obtain ⟨first, others⟩ := List.forall_mem_cons.mp each
    rw [itemReferences, partsOfItems, List.filterMap_append, filterMap_under, first, ih _ others]

private theorem fieldReferences_eq {fields : Entries Value}
    (each : ∀ field ∈ fields, field.2.references = field.2.parts.filterMap Part.reference?) :
    fieldReferences fields = (partsOfFields fields).filterMap Part.reference? := by
  induction fields with
  | nil => rfl
  | cons field rest ih =>
    obtain ⟨key, item⟩ := field
    obtain ⟨first, others⟩ := List.forall_mem_cons.mp each
    rw [fieldReferences, partsOfFields, List.filterMap_append, filterMap_under, first, ih others]

theorem references_eq (value : Value) :
    value.references = value.parts.filterMap Part.reference? := by
  induction value using Value.induction with
  | list items ih => rw [references, parts, itemReferences_eq 0 ih]; rfl
  | object fields ih => rw [references, parts, fieldReferences_eq ih]; rfl
  | str text =>
    simp only [references_str, parts, List.filterMap_cons, Part.reference?, Reference.ofValue?]
    cases Reference.parse? text <;> rfl
  | _ => simp [references, parts, Part.reference?, Reference.ofValue?]

theorem sites_eq (value : Value) : value.sites = value.parts.filterMap Part.site? := by
  rw [sites_eq_filter, references_eq, List.filter_filterMap]
  congr 1
  funext part
  simp only [Part.site?, Part.reference?]
  cases Reference.ofValue? part.value <;> rfl

section

variable {value : Value} (h : value.isWellKeyed = true)

include h

theorem mem_references_iff {location : Location} {reference : Reference} :
    ⟨location, reference⟩ ∈ value.references ↔
      ∃ text, value.HoldsAt location (.str text) ∧ Reference.parse? text = some reference := by
  rw [references_eq, List.mem_filterMap]
  constructor
  · rintro ⟨⟨leads, part⟩, member, found⟩
    obtain ⟨refers, whole, same⟩ := Option.map_eq_some_iff.mp found
    obtain ⟨rfl, rfl⟩ := ReferenceSite.mk.inj same
    cases part with
    | str text => exact ⟨text, (mem_parts_iff h).mp member, whole⟩
    | _ => contradiction
  · rintro ⟨text, holds, refers⟩
    refine ⟨⟨location, .str text⟩, (mem_parts_iff h).mpr holds, ?_⟩
    simp [Part.reference?, Reference.ofValue?, refers]

theorem mem_sites_iff {location : Location} {reference : Reference} :
    ⟨location, reference⟩ ∈ value.sites ↔ location ≠ [] ∧
      ∃ text, value.HoldsAt location (.str text) ∧ Reference.parse? text = some reference := by
  rw [sites_eq_filter, List.mem_filter, mem_references_iff h, decide_eq_true_iff, and_comm]

theorem allApart_sites : AllApart value.sites := by
  rw [sites_eq_filter]
  exact (allApart_references h).filter _

end

/-- The places of the sites are all there, and none leads through another. -/
structure Writable (value : Value) (sites : List ReferenceSite) : Prop where
  held : ∀ site ∈ sites, site.location ≠ [] ∧ ∃ old, value.HoldsAt site.location old
  apart : AllApart sites

/-- Writing at one site leaves the others to be written at. -/
theorem Writable.exists_set {value : Value} {site : ReferenceSite}
    {rest : List ReferenceSite} (writable : value.Writable (site :: rest)) (item : Value) :
    ∃ changed, value.set site.location item = .ok changed ∧ changed.Writable rest := by
  obtain ⟨⟨inside, old, holds⟩, others⟩ := List.forall_mem_cons.mp writable.held
  obtain ⟨apart, apartRest⟩ := List.pairwise_cons.mp writable.apart
  obtain ⟨changed, written, replaces⟩ := holds.exists_set inside item
  refine ⟨changed, written, ?_, apartRest⟩
  intro other member
  obtain ⟨within, kept, holds⟩ := others other member
  exact ⟨within, kept, replaces.others (apart other member) holds⟩

theorem Writable.rest {value : Value} {site : ReferenceSite} {rest : List ReferenceSite}
    (writable : value.Writable (site :: rest)) : value.Writable rest where
  held := (List.forall_mem_cons.mp writable.held).2
  apart := (List.pairwise_cons.mp writable.apart).2

theorem writable_sites {value : Value} (h : value.isWellKeyed = true) :
    value.Writable value.sites where
  held site member := by
    obtain ⟨inside, text, holds, -⟩ := (mem_sites_iff h).mp member
    exact ⟨inside, _, holds⟩
  apart := allApart_sites h

end DesignTokens.Value
