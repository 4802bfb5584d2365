import DesignTokens.Proofs.Tree.Walk
import DesignTokens.Proofs.Value.WellKeyed
import Mathlib.Data.List.Nodup

/-! The children of groups that a walk meets. Main statement: the walk is the recursion through
them, and each is yielded, entered or reported once. -/
namespace DesignTokens.Tree

variable {settings : Settings}

theorem classify_eq_group_iff {node : Value} : classify settings node = .group ↔
    ∃ fields : Entries Value, node = .object fields ∧ fields.lookup settings.typeKey = none := by
  cases node with
  | object fields =>
    simp only [Value.object.injEq, exists_eq_left', classify, classifyFields]
    cases fields.lookup settings.typeKey with
    | none => simp
    | some held =>
      cases held with
      | str type =>
        simp only [reduceCtorEq, iff_false]
        split <;> simp
      | _ => simp
  | _ => simp [classify]

theorem classify_eq_leaf_iff {node : Value} : classify settings node = .leaf ↔
    ∃ (fields : Entries Value) (type : String) (value : Value), node = .object fields ∧
      fields.lookup settings.typeKey = some (.str type) ∧
      fields.lookup settings.valueKey = some value := by
  cases node with
  | object fields =>
    simp only [Value.object.injEq, exists_and_left, exists_eq_left', classify, classifyFields,
      Entries.has]
    cases fields.lookup settings.typeKey with
    | none => simp
    | some held =>
      cases held with
      | str type =>
        simp only [Option.some.injEq, Value.str.injEq, exists_eq_left', ← Option.isSome_iff_exists]
        by_cases valued : (fields.lookup settings.valueKey).isSome <;> simp [valued]
      | _ => simp
  | _ => simp [classify]

theorem tokenAt_eq {segments : List String} {fields : Entries Value} {type : String}
    {value : Value} (typed : fields.lookup settings.typeKey = some (.str type))
    (valued : fields.lookup settings.valueKey = some value) :
    tokenAt settings segments fields =
      { path := joinPath segments, type, value
        extensions := fieldsOf (fields.lookup "$extensions")
        description := textOf (fields.lookup "$description") } := by
  simp [tokenAt, typed, valued, textOf]

/-- A leaf has a type and a value. -/
theorem lookup_of_leaf {fields : Entries Value} (leaf : classify settings (.object fields) = .leaf)
    (segments : List String) :
    fields.lookup settings.typeKey = some (.str (tokenAt settings segments fields).type) ∧
      fields.lookup settings.valueKey = some (tokenAt settings segments fields).value := by
  obtain ⟨_, type, value, ⟨⟩, typed, valued⟩ := classify_eq_leaf_iff.mp leaf
  rw [tokenAt_eq typed valued]
  exact ⟨typed, valued⟩

/-- What a walk of groups comes to when it goes through their children in key order. -/
structure IsRecursion (settings : Settings)
    (visits : List String → Entries Value → List Visit) : Prop where
  nil (above : List String) : visits above [] = []
  reserved {above : List String} {key : String} {child : Value} {rest : Entries Value} :
    isReserved key = true → visits above ((key, child) :: rest) = visits above rest
  leaf {above : List String} {key : String} {fields rest : Entries Value} {type : String}
    {value : Value} : isReserved key = false →
    fields.lookup settings.typeKey = some (.str type) →
    fields.lookup settings.valueKey = some value →
    visits above ((key, .object fields) :: rest) =
      .token {
        path := joinPath (above ++ [key]), type, value
        extensions := fieldsOf (fields.lookup "$extensions")
        description := textOf (fields.lookup "$description") } :: visits above rest
  group {above : List String} {key : String} {fields rest : Entries Value} :
    isReserved key = false → fields.lookup settings.typeKey = none →
    visits above ((key, .object fields) :: rest) =
      visits (above ++ [key]) fields ++ visits above rest
  other {above : List String} {key : String} {child : Value} {rest : Entries Value} :
    isReserved key = false →
    (∀ fields : Entries Value, child = .object fields →
      fields.lookup settings.typeKey ≠ none ∧ ∀ type value,
        fields.lookup settings.typeKey = some (.str type) →
          fields.lookup settings.valueKey ≠ some value) →
    ∃ reason, classify settings child = .malformed reason ∧
      visits above ((key, child) :: rest) =
        .skipped ⟨joinPath (above ++ [key]), reason⟩ :: visits above rest

theorem visitsBelow_of_plain {above : List String} {key : String} {child : Value}
    {rest : Entries Value} (plain : isReserved key = false) :
    visitsBelow settings above ((key, child) :: rest) =
      visitsOf settings (above ++ [key]) child ++ visitsBelow settings above rest := by
  simp [visitsBelow, plain]

theorem isRecursion_visitsBelow (settings : Settings) :
    IsRecursion settings (visitsBelow settings) where
  nil above := by simp [visitsBelow]
  reserved met := by simp [visitsBelow, met]
  leaf plain typed valued := by
    rw [visitsBelow_of_plain plain,
      visitsOf_leaf (classify_eq_leaf_iff.mpr ⟨_, _, _, rfl, typed, valued⟩),
      tokenAt_eq typed valued]
    rfl
  group plain untyped := by
    rw [visitsBelow_of_plain plain, visitsOf_group (classify_eq_group_iff.mpr ⟨_, rfl, untyped⟩)]
  other {above key child rest} plain neither := by
    cases kind : classify settings child with
    | leaf =>
      obtain ⟨fields, type, value, rfl, typed, valued⟩ := classify_eq_leaf_iff.mp kind
      exact absurd valued ((neither fields rfl).2 type value typed)
    | group =>
      obtain ⟨fields, rfl, untyped⟩ := classify_eq_group_iff.mp kind
      exact absurd untyped (neither fields rfl).1
    | malformed reason =>
      refine ⟨reason, rfl, ?_⟩
      rw [visitsBelow_of_plain plain, visitsOf_malformed kind]
      rfl

/-- A child of a group, under the keys that lead to it. -/
structure Child where
  segments : List String
  node : Value
deriving DecidableEq

mutual

/-- The children below a group, in key order, each before those below it. -/
def childrenBelow (settings : Settings) (above : List String) : Entries Value → List Child
  | [] => []
  | (key, node) :: rest =>
    (if isReserved key then []
      else ⟨above ++ [key], node⟩ :: childrenOf settings (above ++ [key]) node) ++
      childrenBelow settings above rest

def childrenOf (settings : Settings) (segments : List String) : Value → List Child
  | .object fields =>
    match classifyFields settings fields with
    | .group => childrenBelow settings segments fields
    | _ => []
  | _ => []

end

/-- What a walk makes of a child; a group is entered. -/
def Child.visit? (settings : Settings) (child : Child) : Option Visit :=
  match classify settings child.node with
  | .leaf => some (.token (tokenAt settings child.segments (fieldsOf (some child.node))))
  | .group => none
  | .malformed reason => some (.skipped ⟨joinPath child.segments, reason⟩)

theorem childrenOf_group {segments : List String} {fields : Entries Value}
    (group : classify settings (.object fields) = .group) :
    childrenOf settings segments (.object fields) = childrenBelow settings segments fields := by
  rw [classify] at group
  simp only [childrenOf, group]

theorem childrenOf_of_ne {segments : List String} {node : Value}
    (closed : classify settings node ≠ .group) : childrenOf settings segments node = [] := by
  cases node with
  | object fields =>
    rw [classify] at closed
    cases kind : classifyFields settings fields <;> simp_all [childrenOf]
  | _ => simp [childrenOf]

theorem mem_childrenOf {segments : List String} {node : Value} {child : Child} :
    child ∈ childrenOf settings segments node ↔ ∃ fields, node = .object fields ∧
      classify settings node = .group ∧ child ∈ childrenBelow settings segments fields := by
  by_cases kind : classify settings node = .group
  · obtain ⟨fields, rfl, -⟩ := classify_eq_group_iff.mp kind
    simp [childrenOf_group kind, kind]
  · simp [childrenOf_of_ne kind, kind]

theorem mem_childrenBelow {above : List String} {fields : Entries Value} {child : Child} :
    child ∈ childrenBelow settings above fields ↔
      ∃ field ∈ fields, isReserved field.1 = false ∧
        (child = ⟨above ++ [field.1], field.2⟩ ∨
          child ∈ childrenOf settings (above ++ [field.1]) field.2) := by
  induction fields with
  | nil => simp [childrenBelow]
  | cons field rest ih =>
    obtain ⟨key, node⟩ := field
    rw [childrenBelow, List.mem_append, ih]
    cases reserved : isReserved key <;> simp [reserved]

theorem visitsBelow_eq {above : List String} {fields : Entries Value}
    (each : ∀ field ∈ fields, ∀ segments, visitsOf settings segments field.2 =
      (⟨segments, field.2⟩ :: childrenOf settings segments field.2).filterMap
        (Child.visit? settings)) :
    visitsBelow settings above fields =
      (childrenBelow settings above fields).filterMap (Child.visit? settings) := by
  induction fields with
  | nil => simp [visitsBelow, childrenBelow]
  | cons field rest ih =>
    obtain ⟨key, node⟩ := field
    obtain ⟨first, others⟩ := List.forall_mem_cons.mp each
    rw [visitsBelow, childrenBelow, List.filterMap_append, ih others]
    split
    · rfl
    · rw [first]

private theorem visitsOf_eq (node : Value) (segments : List String) :
    visitsOf settings segments node =
      (⟨segments, node⟩ :: childrenOf settings segments node).filterMap
        (Child.visit? settings) := by
  induction node using Value.induction generalizing segments with
  | object fields ih =>
    cases kind : classify settings (.object fields) with
    | leaf => simp [visitsOf_leaf kind, childrenOf_of_ne, kind, Child.visit?, fieldsOf]
    | group =>
      rw [visitsOf_group kind, visitsBelow_eq ih, childrenOf_group kind]
      simp [Child.visit?, kind]
    | malformed reason => simp [visitsOf_malformed kind, childrenOf_of_ne, kind, Child.visit?]
  | _ =>
    rw [visitsOf_malformed rfl, childrenOf_of_ne (by simp [classify])]
    simp [Child.visit?, classify]

theorem walk_eq_filterMap (settings : Settings) (fields : Entries Value) :
    walk settings (.object fields) =
      (childrenBelow settings [] fields).filterMap (Child.visit? settings) := by
  rw [walk_object]
  exact visitsBelow_eq fun field _ => visitsOf_eq field.2

theorem mem_walk_iff {fields : Entries Value} {visit : Visit} :
    visit ∈ walk settings (.object fields) ↔
      ∃ child ∈ childrenBelow settings [] fields, child.visit? settings = some visit := by
  rw [walk_eq_filterMap, List.mem_filterMap]

theorem Child.leaf_of_visit? {child : Child} {token : Token}
    (visited : child.visit? settings = some (.token token)) :
    ∃ fields : Entries Value, child.node = .object fields ∧
      classify settings (.object fields) = .leaf ∧
      token = tokenAt settings child.segments fields := by
  cases kind : classify settings child.node with
  | leaf =>
    obtain ⟨fields, -, -, same, -⟩ := classify_eq_leaf_iff.mp kind
    rw [visit?, kind, same] at visited
    cases visited
    exact ⟨fields, same, same ▸ kind, rfl⟩
  | _ => simp [visit?, kind] at visited

theorem Child.malformed_of_visit? {child : Child} {skipped : SkippedNode}
    (visited : child.visit? settings = some (.skipped skipped)) :
    classify settings child.node = .malformed skipped.reason := by
  cases kind : classify settings child.node with
  | malformed reason =>
    rw [visit?, kind] at visited
    cases visited
    rfl
  | _ => simp [visit?, kind] at visited

section

variable (holds : Value → Prop)
  (down : ∀ fields, holds (.object fields) → ∀ field ∈ fields, holds field.2)

include down

private theorem holds_of_mem_childrenOf (node : Value) (h : holds node) {segments : List String}
    {child : Child} (member : child ∈ childrenOf settings segments node) : holds child.node := by
  induction node using Value.induction generalizing segments with
  | object fields ih =>
    obtain ⟨_, ⟨⟩, -, inside⟩ := mem_childrenOf.mp member
    obtain ⟨field, held, -, rfl | deeper⟩ := mem_childrenBelow.mp inside
    · exact down fields h field held
    · exact ih field held (down fields h field held) deeper
  | _ => simp [childrenOf] at member

/-- What groups hand down to what stands in them holds for every child, however deep. -/
theorem holds_of_mem_childrenBelow {fields : Entries Value} (h : holds (.object fields))
    {above : List String} {child : Child} (member : child ∈ childrenBelow settings above fields) :
    holds child.node := by
  obtain ⟨field, held, -, rfl | deeper⟩ := mem_childrenBelow.mp member
  · exact down fields h field held
  · exact holds_of_mem_childrenOf holds down field.2 (down fields h field held) deeper

end

/-- A walk meets a node under the keys: no key is reserved, and on the way there are groups. -/
inductive Met (settings : Settings) : Value → List String → Value → Prop where
  | child {fields : Entries Value} {key : String} {node : Value}
      (found : fields.lookup key = some node) (plain : isReserved key = false) :
      Met settings (.object fields) [key] node
  | deeper {fields : Entries Value} {key : String} {group node : Value} {segments : List String}
      (found : fields.lookup key = some group) (plain : isReserved key = false)
      (opens : classify settings group = .group) (inside : Met settings group segments node) :
      Met settings (.object fields) (key :: segments) node

theorem Met.ne_nil {tree node : Value} {segments : List String}
    (met : Met settings tree segments node) : segments ≠ [] := by
  cases met <;> simp

/-- The children below a group are those that are met from there. -/
theorem mem_childrenBelow_iff (tree : Value) {fields : Entries Value} (same : tree = .object fields)
    (h : tree.isWellKeyed = true) (above : List String) {child : Child} :
    child ∈ childrenBelow settings above fields ↔
      ∃ more, child.segments = above ++ more ∧ Met settings tree more child.node := by
  induction tree using Value.induction generalizing fields above child with
  | object fields' ih =>
    obtain rfl := Value.object.inj same
    obtain ⟨distinct, keyed⟩ := Value.isWellKeyed_object_iff.mp h
    rw [mem_childrenBelow]
    constructor
    · rintro ⟨⟨key, node⟩, held, plain, here | inside⟩
      · exact ⟨[key], by rw [here], here ▸ .child (Entries.lookup_of_mem distinct held) plain⟩
      · obtain ⟨inner, rfl, opens, inside⟩ := mem_childrenOf.mp inside
        obtain ⟨more, leads, met⟩ := (ih _ held rfl (keyed _ held) _).mp inside
        refine ⟨key :: more, by rw [leads, List.append_assoc]; rfl, ?_⟩
        exact .deeper (Entries.lookup_of_mem distinct held) plain opens met
    · obtain ⟨segments, node⟩ := child
      rintro ⟨more, rfl, met⟩
      cases met with
      | child found plain => exact ⟨_, Entries.mem_of_lookup found, plain, .inl rfl⟩
      | @deeper _ key group _ more found plain opens inside =>
        have held := Entries.mem_of_lookup found
        obtain ⟨inner, rfl, -⟩ := classify_eq_group_iff.mp opens
        refine ⟨_, held, plain, .inr (mem_childrenOf.mpr ⟨inner, rfl, opens, ?_⟩)⟩
        exact (ih _ held rfl (keyed _ held) _).mpr ⟨more, by simp, inside⟩
  | _ => contradiction

theorem childrenBelow_cons (above : List String) (field : String × Value) (rest : Entries Value) :
    childrenBelow settings above (field :: rest) =
      childrenBelow settings above [field] ++ childrenBelow settings above rest := by
  simp [childrenBelow]

theorem exists_more_of_mem_childrenOf {node : Value} (h : node.isWellKeyed = true)
    {segments : List String} {child : Child} (member : child ∈ childrenOf settings segments node) :
    ∃ more, more ≠ [] ∧ child.segments = segments ++ more := by
  obtain ⟨fields, same, -, inside⟩ := mem_childrenOf.mp member
  obtain ⟨more, leads, met⟩ := (mem_childrenBelow_iff node same h segments).mp inside
  exact ⟨more, met.ne_nil, leads⟩

theorem exists_key_of_mem_childrenBelow {above : List String} {fields : Entries Value}
    (keyed : ∀ field ∈ fields, field.2.isWellKeyed = true) {child : Child}
    (member : child ∈ childrenBelow settings above fields) :
    ∃ field ∈ fields, ∃ more, child.segments = above ++ field.1 :: more := by
  obtain ⟨field, held, -, rfl | inside⟩ := mem_childrenBelow.mp member
  · exact ⟨field, held, [], rfl⟩
  · obtain ⟨more, -, leads⟩ := exists_more_of_mem_childrenOf (keyed field held) inside
    exact ⟨field, held, more, by simp [leads]⟩

private theorem nodup_segments_single {above : List String} {field : String × Value}
    (keyed : field.2.isWellKeyed = true)
    (each : ∀ segments, ((childrenOf settings segments field.2).map Child.segments).Nodup) :
    ((childrenBelow settings above [field]).map Child.segments).Nodup := by
  rw [childrenBelow, childrenBelow, List.append_nil]
  split
  · exact List.nodup_nil
  · refine List.nodup_cons.mpr ⟨fun again => ?_, each _⟩
    obtain ⟨child, inside, same⟩ := List.mem_map.mp again
    obtain ⟨more, nonempty, leads⟩ := exists_more_of_mem_childrenOf keyed inside
    rw [leads] at same
    simp [nonempty] at same

/-- The key that follows those above tells from which field a child comes. -/
private theorem disjoint_segments {above : List String} {field : String × Value}
    {rest : Entries Value}
    (new : field.1 ∉ rest.keys) (here : field.2.isWellKeyed = true)
    (keyed : ∀ field ∈ rest, field.2.isWellKeyed = true) :
    ((childrenBelow settings above [field]).map Child.segments).Disjoint
      ((childrenBelow settings above rest).map Child.segments) := by
  intro segments member again
  obtain ⟨child, inside, rfl⟩ := List.mem_map.mp member
  obtain ⟨other, outside, same⟩ := List.mem_map.mp again
  obtain ⟨_, alone, more, leads⟩ := exists_key_of_mem_childrenBelow (by simpa using here) inside
  obtain ⟨field', held, more', leads'⟩ := exists_key_of_mem_childrenBelow keyed outside
  rw [List.mem_singleton.mp alone] at leads
  rw [leads, leads'] at same
  obtain ⟨key, -⟩ := List.cons.inj (List.append_cancel_left same)
  exact new (List.mem_map.mpr ⟨field', held, key⟩)

theorem nodup_segments_below {above : List String} {fields : Entries Value}
    (distinct : fields.keys.Nodup) (keyed : ∀ field ∈ fields, field.2.isWellKeyed = true)
    (each : ∀ field ∈ fields, ∀ segments,
      ((childrenOf settings segments field.2).map Child.segments).Nodup) :
    ((childrenBelow settings above fields).map Child.segments).Nodup := by
  induction fields with
  | nil => simp [childrenBelow]
  | cons field rest ih =>
    obtain ⟨new, distinct⟩ := List.nodup_cons.mp distinct
    obtain ⟨here, keyed⟩ := List.forall_mem_cons.mp keyed
    obtain ⟨first, others⟩ := List.forall_mem_cons.mp each
    rw [childrenBelow_cons, List.map_append, List.nodup_append']
    exact ⟨nodup_segments_single here first, ih distinct keyed others,
      disjoint_segments new here keyed⟩

private theorem nodup_segments_childrenOf (node : Value) (h : node.isWellKeyed = true)
    (segments : List String) : ((childrenOf settings segments node).map Child.segments).Nodup := by
  induction node using Value.induction generalizing segments with
  | object fields ih =>
    obtain ⟨distinct, keyed⟩ := Value.isWellKeyed_object_iff.mp h
    by_cases kind : classify settings (.object fields) = .group
    · rw [childrenOf_group kind]
      exact nodup_segments_below distinct keyed fun field held => ih field held (keyed field held)
    · simp [childrenOf_of_ne kind]
  | _ =>
    rw [childrenOf_of_ne (by simp [classify])]
    exact List.nodup_nil

theorem nodup_segments_walked {fields : Entries Value}
    (h : (Value.object fields).isWellKeyed = true) :
    ((childrenBelow settings [] fields).map Child.segments).Nodup := by
  obtain ⟨distinct, keyed⟩ := Value.isWellKeyed_object_iff.mp h
  apply nodup_segments_below distinct keyed
  intro field held segments
  exact nodup_segments_childrenOf field.2 (keyed field held) segments

/-- The walk is the recursion through the children of groups. Each child that is met stands once
among those it goes through, and there it is yielded, entered or reported. -/
theorem walk_by_recursion (settings : Settings) {tree : Value} (h : tree.isWellKeyed = true) :
    IsRecursion settings (visitsBelow settings) ∧
      ((∀ fields, tree ≠ .object fields) →
        walk settings tree = [.skipped ⟨"", "token tree root must be a mapping"⟩]) ∧
      ∀ fields, tree = .object fields →
        walk settings tree = visitsBelow settings [] fields ∧
        walk settings tree =
          (childrenBelow settings [] fields).filterMap (Child.visit? settings) ∧
        ((childrenBelow settings [] fields).map Child.segments).Nodup ∧
        ∀ segments node, ⟨segments, node⟩ ∈ childrenBelow settings [] fields ↔
          Met settings tree segments node := by
  refine ⟨isRecursion_visitsBelow settings, ?_, ?_⟩
  · intro noMapping
    cases tree with
    | object fields => exact absurd rfl (noMapping fields)
    | _ => rfl
  · rintro fields rfl
    refine ⟨walk_object settings fields, walk_eq_filterMap settings fields,
      nodup_segments_walked h, ?_⟩
    intro segments node
    simp [mem_childrenBelow_iff _ rfl h]

/-- Two children under one path, one of them malformed, and a root that has a type. -/
def thicket : Entries Value := [
  ("$note", .object [("kind", .str "color"), ("is", .null)]),
  ("a/b", .object [("is", .null), ("kind", .str "color")]),
  ("a", .object [("b", .object [("kind", .int 1)]), ("", .object []), ("c", .list [.null])]),
  ("kind", .str "color")]

theorem walk_by_recursion_thicket :
    let settings : Settings := { typeKey := "kind", valueKey := "is" }
    (Value.object thicket).isWellKeyed = true ∧
      walk settings (.object thicket) = [
        .token ⟨"a/b", "color", .null, [], none⟩, .skipped ⟨"a/b", "kind must be a string"⟩,
        .skipped ⟨"a/c", "arrays are not token groups"⟩,
        .skipped ⟨"kind", "unexpected str in group position"⟩] ∧
      ((childrenBelow settings [] thicket).map Child.segments).Nodup ∧
      Met settings (.object thicket) ["a", ""] (.object []) := by
  intro settings
  have h : (Value.object thicket).isWellKeyed = true := by decide
  obtain ⟨-, -, mapping⟩ := walk_by_recursion settings h
  obtain ⟨recursive, -, distinct, met⟩ := mapping thicket rfl
  exact ⟨h, recursive, distinct, (met _ _).mp (by decide)⟩

end DesignTokens.Tree
