import DesignTokens.Proofs.Resolution.Rule
import DesignTokens.Proofs.Value.Scan
import DesignTokens.Proofs.Value.WellKeyed

/-! Values for the references inside a value. Writing at one site after another
comes to replacing every reference where it stands and leaving all else as it is,
because a value that holds no key twice has one place for each of its sites. -/
namespace DesignTokens

theorem Reference.raw_of_parse? {text : String} {reference : Reference}
    (refers : Reference.parse? text = some reference) : reference.raw = text := by
  unfold parse? at refers
  obtain ⟨path, -, rfl⟩ := Option.map_eq_some_iff.mp refers
  rfl

namespace Value

mutual

/-- The value with something else for each of its references. -/
def substitute (f : Reference → Value) : Value → Value
  | .list items => .list (substituteItems f items)
  | .object fields => .object (substituteFields f fields)
  | value => ((Reference.ofValue? value).map f).getD value

def substituteItems (f : Reference → Value) : List Value → List Value
  | [] => []
  | item :: rest => substitute f item :: substituteItems f rest

def substituteFields (f : Reference → Value) : Entries Value → Entries Value
  | [] => []
  | (key, item) :: rest => (key, substitute f item) :: substituteFields f rest

end

theorem substitute_str (f : Reference → Value) (text : String) :
    (str text).substitute f = ((Reference.parse? text).map f).getD (.str text) := by
  simp only [substitute, Reference.ofValue?]

theorem references_str (text : String) :
    (str text).references = ((Reference.parse? text).map (⟨[], ·⟩)).toList := by
  simp only [references, Reference.ofValue?]

theorem substituteItems_append (f : Reference → Value) (before after : List Value) :
    substituteItems f (before ++ after) = substituteItems f before ++ substituteItems f after := by
  induction before with
  | nil => rfl
  | cons item rest ih =>
    rw [List.cons_append, substituteItems, ih, substituteItems, List.cons_append]

theorem length_substituteItems (f : Reference → Value) (items : List Value) :
    (substituteItems f items).length = items.length := by
  induction items with
  | nil => rfl
  | cons item rest ih => rw [substituteItems, List.length_cons, ih, List.length_cons]

theorem substituteFields_append (f : Reference → Value) (before after : Entries Value) :
    substituteFields f (before ++ after) =
      substituteFields f before ++ substituteFields f after := by
  induction before with
  | nil => rfl
  | cons field rest ih =>
    rw [List.cons_append, substituteFields, ih, substituteFields, List.cons_append]

theorem keys_substituteFields (f : Reference → Value) (fields : Entries Value) :
    (substituteFields f fields).keys = fields.keys := by
  induction fields with
  | nil => rfl
  | cons field rest ih =>
    rw [substituteFields]
    exact congrArg (field.1 :: ·) ih

/-- A value with one place left open, and the step that leads there. -/
structure Slot (step : Step) (hold : Value → Value) : Prop where
  child_hold : ∀ inner, (hold inner).child step = .ok inner
  replaceChild_hold : ∀ inner item, (hold inner).replaceChild step item = .ok (hold item)

theorem slot_list (before after : List Value) :
    Slot (.index before.length) fun item => .list (before ++ item :: after) where
  child_hold inner := by simp [Value.child]
  replaceChild_hold inner item := by simp [replaceChild]

private theorem lookup_append_cons {before : Entries Value} {key : String} (new : key ∉ before.keys)
    (item : Value) (after : Entries Value) :
    (before ++ (key, item) :: after).lookup key = some item := by
  rw [List.lookup_append, Entries.lookup_eq_none_of_notMem new, List.lookup_cons_self]
  rfl

private theorem put_append_cons {before : Entries Value} {key : String} (new : key ∉ before.keys)
    (old item : Value) (after : Entries Value) :
    Entries.put key item (before ++ (key, old) :: after) = before ++ (key, item) :: after := by
  induction before with
  | nil => simp [Entries.put]
  | cons field rest ih =>
    obtain ⟨other, held⟩ := field
    obtain ⟨different, later⟩ : key ≠ other ∧ key ∉ Entries.keys rest := by
      rw [← not_or, ← List.mem_cons]
      exact new
    rw [List.cons_append, Entries.put, if_neg (Ne.symm different), ih later, List.cons_append]

theorem slot_object {before : Entries Value} {key : String} (new : key ∉ before.keys)
    (after : Entries Value) :
    Slot (.key key) fun item => .object (before ++ (key, item) :: after) where
  child_hold inner := by
    dsimp only [Value.child]
    rw [lookup_append_cons new]
    rfl
  replaceChild_hold inner item := by
    dsimp only [replaceChild]
    rw [put_append_cons new]

/-- Writes at a place, which may be the whole value. -/
def putAt (value : Value) (location : Location) (item : Value) : Value :=
  if location = [] then item else splice value location item

theorem Slot.splice_cons {step : Step} {hold : Value → Value} (slot : Slot step hold)
    (inner : Value) (rest : Location) (item : Value) :
    splice (hold inner) (step :: rest) item = hold (inner.putAt rest item) := by
  unfold putAt
  cases rest with
  | nil =>
    rw [if_pos rfl]
    unfold splice
    rw [set, slot.replaceChild_hold]
  | cons next rest =>
    rw [if_neg (List.cons_ne_nil next rest)]
    unfold splice
    rw [set, slot.child_hold]
    cases written : inner.set (next :: rest) item with
    | ok changed => simp only [bind, Except.bind, written, slot.replaceChild_hold]
    | error e => simp only [bind, Except.bind, written]

theorem mem_itemReferences {items : List Value} {position : Nat} {site : ReferenceSite}
    (member : site ∈ itemReferences position items) :
    ∃ before item after, items = before ++ item :: after ∧
      ∃ inner ∈ item.references, site = inner.under (.index (position + before.length : Nat)) := by
  induction items generalizing position with
  | nil => exact absurd member List.not_mem_nil
  | cons item rest ih =>
    rw [itemReferences] at member
    rcases List.mem_append.mp member with here | later
    · obtain ⟨inner, inside, rfl⟩ := List.mem_map.mp here
      exact ⟨[], item, rest, rfl, inner, inside, rfl⟩
    · obtain ⟨before, other, after, rfl, inner, inside, rfl⟩ := ih later
      refine ⟨item :: before, other, after, rfl, inner, inside, ?_⟩
      rw [List.length_cons, Nat.add_assoc, Nat.add_comm 1]

theorem mem_fieldReferences {fields : Entries Value} {site : ReferenceSite}
    (member : site ∈ fieldReferences fields) :
    ∃ before key item after, fields = before ++ (key, item) :: after ∧
      ∃ inner ∈ item.references, site = inner.under (.key key) := by
  induction fields with
  | nil => exact absurd member List.not_mem_nil
  | cons field rest ih =>
    obtain ⟨key, item⟩ := field
    rw [fieldReferences] at member
    rcases List.mem_append.mp member with here | later
    · obtain ⟨inner, inside, rfl⟩ := List.mem_map.mp here
      exact ⟨[], key, item, rest, rfl, inner, inside, rfl⟩
    · obtain ⟨before, other, held, after, rfl, inner, inside, rfl⟩ := ih later
      exact ⟨(key, item) :: before, other, held, after, rfl, inner, inside, rfl⟩

theorem notMem_keys_of_nodup {before : Entries Value} {key : String} {item : Value}
    {after : Entries Value} (distinct : (Entries.keys (before ++ (key, item) :: after)).Nodup) :
    key ∉ before.keys := by
  unfold Entries.keys at distinct
  rw [List.map_append, List.map_cons, List.nodup_append] at distinct
  intro known
  exact distinct.2.2 key known key List.mem_cons_self rfl

/-- Behind a substitution each site holds what stands for its reference. -/
theorem get_substitute (f : Reference → Value) {value : Value} (h : value.isWellKeyed = true)
    {site : ReferenceSite} (member : site ∈ value.references) :
    (value.substitute f).get site.location = .ok (f site.reference) := by
  induction value using Value.induction generalizing site with
  | list items ih =>
    rw [isWellKeyed_list_iff] at h
    rw [references] at member
    obtain ⟨before, item, after, rfl, inner, inside, rfl⟩ := mem_itemReferences member
    have held : item ∈ before ++ item :: after := by simp
    have slot := slot_list (substituteItems f before) (substituteItems f after)
    rw [length_substituteItems] at slot
    rw [substitute, substituteItems_append, substituteItems, ReferenceSite.under, Nat.zero_add,
      Value.get, slot.child_hold]
    exact ih item held (h item held) inside
  | object fields ih =>
    rw [isWellKeyed_object_iff] at h
    rw [references] at member
    obtain ⟨before, key, item, after, rfl, inner, inside, rfl⟩ := mem_fieldReferences member
    have held : (key, item) ∈ before ++ (key, item) :: after := by simp
    have new : key ∉ (substituteFields f before).keys := by
      rw [keys_substituteFields]
      exact notMem_keys_of_nodup h.1
    rw [substitute, substituteFields_append, substituteFields, ReferenceSite.under,
      Value.get, (slot_object new _).child_hold]
    exact ih (key, item) held (h.2 _ held) inside
  | str text =>
    rw [references_str, Option.mem_toList, Option.map_eq_some_iff] at member
    obtain ⟨reference, refers, rfl⟩ := member
    rw [substitute_str, refers]
    rfl
  | _ => simp [references, Reference.ofValue?] at member

/-- What stands for a reference: its value, or its own text when it fails. -/
def fill (answer : Reference → Status × Value) (reference : Reference) : Value :=
  if (answer reference).1 = .resolved then (answer reference).2 else .str reference.raw

/-- One site written, unless its reference fails; the site may be the whole value. -/
def overwrite (answer : Reference → Status × Value) (value : Value) (site : ReferenceSite) :
    Value :=
  if (answer site.reference).1 = .resolved then
    value.putAt site.location (answer site.reference).2
  else value

theorem overwrite_eq_writeSite (answer : Reference → Status × Value) (value : Value)
    {site : ReferenceSite} (inside : site.location ≠ []) :
    overwrite answer value site = writeSite answer value site := by
  unfold overwrite writeSite putAt
  rw [if_neg inside]

theorem Slot.overwrite_under {step : Step} {hold : Value → Value} (slot : Slot step hold)
    (answer : Reference → Status × Value) (inner : Value) (site : ReferenceSite) :
    overwrite answer (hold inner) (site.under step) = hold (overwrite answer inner site) := by
  unfold overwrite ReferenceSite.under
  dsimp only
  by_cases resolves : (answer site.reference).1 = .resolved
  · rw [if_pos resolves, if_pos resolves, putAt, if_neg (List.cons_ne_nil _ _)]
    exact slot.splice_cons inner site.location _
  · rw [if_neg resolves, if_neg resolves]

/-- Writing below one place rewrites what is held there and nothing else. -/
theorem Slot.foldl_overwrite {step : Step} {hold : Value → Value} (slot : Slot step hold)
    (answer : Reference → Status × Value) (sites : List ReferenceSite) (inner : Value) :
    (sites.map (·.under step)).foldl (overwrite answer) (hold inner) =
      hold (sites.foldl (overwrite answer) inner) := by
  induction sites generalizing inner with
  | nil => rfl
  | cons site rest ih =>
    rw [List.map_cons, List.foldl_cons, slot.overwrite_under, ih, List.foldl_cons]

section

variable {answer : Reference → Status × Value}

private theorem foldl_overwrite_items (before rest : List Value)
    (each : ∀ item ∈ rest,
      item.references.foldl (overwrite answer) item = item.substitute (fill answer)) :
    (itemReferences before.length rest).foldl (overwrite answer) (.list (before ++ rest)) =
      .list (before ++ substituteItems (fill answer) rest) := by
  induction rest generalizing before with
  | nil => rfl
  | cons item rest ih =>
    obtain ⟨first, others⟩ := List.forall_mem_cons.mp each
    have next := ih (before ++ [item.substitute (fill answer)]) others
    rw [List.length_append, List.append_assoc, List.append_assoc] at next
    rw [itemReferences, List.foldl_append, (slot_list before rest).foldl_overwrite, first]
    exact next

private theorem foldl_overwrite_fields (before rest : Entries Value)
    (distinct : (Entries.keys (before ++ rest)).Nodup)
    (each : ∀ field ∈ rest,
      field.2.references.foldl (overwrite answer) field.2 = field.2.substitute (fill answer)) :
    (fieldReferences rest).foldl (overwrite answer) (.object (before ++ rest)) =
      .object (before ++ substituteFields (fill answer) rest) := by
  induction rest generalizing before with
  | nil => rfl
  | cons field rest ih =>
    obtain ⟨key, item⟩ := field
    obtain ⟨first, others⟩ := List.forall_mem_cons.mp each
    have same : Entries.keys ((before ++ [(key, item.substitute (fill answer))]) ++ rest) =
        Entries.keys (before ++ (key, item) :: rest) := by simp [Entries.keys]
    have next := ih (before ++ [(key, item.substitute (fill answer))]) (same ▸ distinct) others
    rw [List.append_assoc, List.append_assoc] at next
    rw [fieldReferences, List.foldl_append,
      (slot_object (notMem_keys_of_nodup distinct) rest).foldl_overwrite, first]
    exact next

theorem foldl_overwrite_references (value : Value) (h : value.isWellKeyed = true) :
    value.references.foldl (overwrite answer) value = value.substitute (fill answer) := by
  induction value using Value.induction with
  | list items ih =>
    rw [isWellKeyed_list_iff] at h
    rw [references, substitute]
    exact foldl_overwrite_items [] items fun item member => ih item member (h item member)
  | object fields ih =>
    rw [isWellKeyed_object_iff] at h
    rw [references, substitute]
    exact foldl_overwrite_fields [] fields h.1
      fun field member => ih field member (h.2 field member)
  | str text =>
    rw [references_str, substitute_str]
    cases refers : Reference.parse? text with
    | none => rfl
    | some reference =>
      rw [← Reference.raw_of_parse? refers]
      rfl
  | _ => simp [references, substitute, Reference.ofValue?]

end

/-- The sites of a value that is not itself a reference are all its references. -/
theorem sites_eq_references {value : Value} (whole : Reference.ofValue? value = none) :
    value.sites = value.references := by
  rw [sites_eq_filter, List.filter_eq_self]
  intro site member
  rw [decide_eq_true_iff]
  cases value with
  | list items =>
    rw [references] at member
    obtain ⟨before, item, after, -, inner, -, rfl⟩ := mem_itemReferences member
    exact List.cons_ne_nil _ _
  | object fields =>
    rw [references] at member
    obtain ⟨before, key, item, after, -, inner, -, rfl⟩ := mem_fieldReferences member
    exact List.cons_ne_nil _ _
  | _ => simp [references, whole] at member

/-- Writing at the sites, one after the other, is substitution. -/
theorem foldl_writeSite_sites (answer : Reference → Status × Value) {value : Value}
    (whole : Reference.ofValue? value = none) (h : value.isWellKeyed = true) :
    value.sites.foldl (writeSite answer) value = value.substitute (fill answer) := by
  rw [← foldl_overwrite_references value h, ← sites_eq_references whole]
  apply List.foldl_ext
  intro written site member
  exact (overwrite_eq_writeSite answer written (location_ne_nil_of_mem_sites member)).symm

def fails (answer : Reference → Status × Value) (site : ReferenceSite) : Bool :=
  (answer site.reference).1 ≠ .resolved

theorem map_under_filter (answer : Reference → Status × Value) (step : Step)
    (sites : List ReferenceSite) :
    (sites.filter (fails answer)).map (·.under step) =
      (sites.map (·.under step)).filter (fails answer) := by
  rw [List.filter_map]
  rfl

section

variable {answer : Reference → Status × Value}

theorem itemReferences_substitute (position : Nat) (items : List Value)
    (each : ∀ item ∈ items, (item.substitute (fill answer)).references =
      item.references.filter (fails answer)) :
    itemReferences position (substituteItems (fill answer) items) =
      (itemReferences position items).filter (fails answer) := by
  induction items generalizing position with
  | nil => rfl
  | cons item rest ih =>
    obtain ⟨first, others⟩ := List.forall_mem_cons.mp each
    rw [substituteItems, itemReferences, itemReferences, first, ih (position + 1) others,
      map_under_filter, List.filter_append]

theorem fieldReferences_substitute (fields : Entries Value)
    (each : ∀ field ∈ fields, (field.2.substitute (fill answer)).references =
      field.2.references.filter (fails answer)) :
    fieldReferences (substituteFields (fill answer) fields) =
      (fieldReferences fields).filter (fails answer) := by
  induction fields with
  | nil => rfl
  | cons field rest ih =>
    obtain ⟨key, item⟩ := field
    obtain ⟨first, others⟩ := List.forall_mem_cons.mp each
    rw [substituteFields, fieldReferences, fieldReferences, first, ih others, map_under_filter,
      List.filter_append]

theorem exists_mem_itemReferences {items : List Value} {item : Value} (held : item ∈ items)
    (position : Nat) {site : ReferenceSite} (inside : site ∈ item.references) :
    ∃ step, site.under step ∈ itemReferences position items := by
  induction items generalizing position with
  | nil => exact absurd held List.not_mem_nil
  | cons first rest ih =>
    rw [itemReferences]
    rcases List.mem_cons.mp held with rfl | later
    · exact ⟨_, List.mem_append_left _ (List.mem_map_of_mem inside)⟩
    · obtain ⟨step, member⟩ := ih later (position + 1)
      exact ⟨step, List.mem_append_right _ member⟩

theorem exists_mem_fieldReferences {fields : Entries Value} {field : String × Value}
    (held : field ∈ fields) {site : ReferenceSite} (inside : site ∈ field.2.references) :
    ∃ step, site.under step ∈ fieldReferences fields := by
  induction fields with
  | nil => exact absurd held List.not_mem_nil
  | cons first rest ih =>
    rw [fieldReferences]
    rcases List.mem_cons.mp held with rfl | later
    · exact ⟨_, List.mem_append_left _ (List.mem_map_of_mem inside)⟩
    · obtain ⟨step, member⟩ := ih later
      exact ⟨step, List.mem_append_right _ member⟩

/-- When resolved values hold no references, those that fail are left where they stand. -/
theorem references_substitute {value : Value}
    (plain : ∀ site ∈ value.references, (answer site.reference).1 = .resolved →
      (answer site.reference).2.references = []) :
    (value.substitute (fill answer)).references = value.references.filter (fails answer) := by
  induction value using Value.induction with
  | list items ih =>
    rw [references] at plain
    rw [substitute, references, references]
    apply itemReferences_substitute
    intro item held
    apply ih item held
    intro site inside
    obtain ⟨step, member⟩ := exists_mem_itemReferences held 0 inside
    exact plain (site.under step) member
  | object fields ih =>
    rw [references] at plain
    rw [substitute, references, references]
    apply fieldReferences_substitute
    intro field held
    apply ih field held
    intro site inside
    obtain ⟨step, member⟩ := exists_mem_fieldReferences held inside
    exact plain (site.under step) member
  | str text =>
    have whole := references_str text
    rw [substitute_str]
    cases refers : Reference.parse? text with
    | none =>
      rw [refers] at whole
      rw [Option.map_none, Option.getD_none, whole]
      rfl
    | some reference =>
      rw [refers] at whole
      have alone : (str text).references = [⟨[], reference⟩] := whole
      rw [Option.map_some, Option.getD_some, alone, fill]
      split
      · next resolves =>
        rw [plain ⟨[], reference⟩ (alone ▸ List.mem_cons_self) resolves]
        simp [fails, resolves]
      · next failing =>
        rw [Reference.raw_of_parse? refers, alone]
        simp [fails, failing]
  | _ => simp [references, substitute, Reference.ofValue?]

end

end Value

end DesignTokens
