import DesignTokens.Proofs.Fold
import DesignTokens.Settings
import Mathlib.Data.List.Induction

/-! Replacing settings. The overrides are read one by one, each on its own, and put into a draft,
in which the last one given for a field counts; the draft is checked at the end. -/
namespace DesignTokens.Settings

namespace Draft

def get (d : Draft) : Field → Datum
  | .typeKey => d.typeKey
  | .valueKey => d.valueKey
  | .aliasExtension => d.aliasExtension
  | .memoize => d.memoize
  | .verify => d.verify
  | .duplicateTypes => d.duplicateTypes
  | .knownTypes => d.knownTypes

theorem get_put (d : Draft) (value : Datum) (field other : Field) :
    (d.put value field).get other = if other = field then value else d.get other := by
  cases field <;> cases other <;> rfl

/-- Puts values into their fields, one after the other. -/
def putAll (d : Draft) (reads : List (Field × Datum)) : Draft :=
  reads.foldl (fun d read => d.put read.2 read.1) d

end Draft

/-- The last value for a field. -/
def latest? (reads : List (Field × Datum)) (field : Field) : Option Datum :=
  reads.reverse.lookup field

theorem Draft.get_putAll (d : Draft) (reads : List (Field × Datum)) (field : Field) :
    (d.putAll reads).get field = (latest? reads field).getD (d.get field) := by
  unfold putAll latest?
  -- From the end, as the value put last is the one that stays.
  induction reads using List.reverseRecOn with
  | nil => rfl
  | append_singleton before last ih =>
    obtain ⟨other, value⟩ := last
    rw [List.foldl_append, List.foldl_cons, List.foldl_nil, get_put, List.reverse_concat,
      List.lookup_cons, ih]
    by_cases same : field = other
    · rw [if_pos same, beq_iff_eq.mpr same, Option.getD_some]
    · rw [if_neg same, beq_false_of_ne same]

/-- A switch is read from the text of what is given; any other field takes it as it is. -/
def readFor (field : Field) (given : Datum) : Except SettingsError Datum :=
  if field.isSwitch then readSwitch field.name given else .ok given

/-- What an override puts where. -/
def readOverride (given : Datum × Datum) : Except SettingsError (Field × Datum) :=
  match fieldNamed? given.1 with
  | none => .error (unknown given.1)
  | some field => (readFor field given.2).map (field, ·)

theorem Draft.override_eq (d : Draft) (given : Datum × Datum) :
    d.override given = (readOverride given).map fun read => d.put read.2 read.1 := by
  unfold override readOverride readFor
  cases fieldNamed? given.1 with
  | none => rfl
  | some field =>
    dsimp only
    split
    · cases readSwitch field.name given.2 <;> rfl
    · rfl

theorem foldlM_override (overrides : Overrides) (d : Draft) :
    overrides.foldlM Draft.override d = (overrides.mapM readOverride).map d.putAll := by
  induction overrides generalizing d with
  | nil => rfl
  | cons given rest ih =>
    rw [List.foldlM_cons, List.mapM_cons, Draft.override_eq]
    cases readOverride given with
    | error e => rfl
    | ok read =>
      refine (ih _).trans ?_
      cases rest.mapM readOverride <;> rfl

theorem merged_eq (s : Settings) (overrides : Overrides) :
    s.merged overrides =
      (overrides.mapM readOverride).bind fun reads => ofDraft (s.draft.putAll reads) := by
  rw [merged, foldlM_override]
  cases overrides.mapM readOverride <;> rfl

theorem merged_eq_error_iff {s : Settings} {overrides : Overrides} {e : SettingsError} :
    s.merged overrides = .error e ↔ overrides.mapM readOverride = .error e ∨
      ∃ reads, overrides.mapM readOverride = .ok reads ∧
        ofDraft (s.draft.putAll reads) = .error e := by
  rw [merged_eq]
  cases overrides.mapM readOverride with
  | error other => simp [Except.bind]
  | ok reads => simp [Except.bind]

/-- Overrides are refused for the first of them that cannot be read. -/
theorem mapM_readOverride_eq_error_iff {overrides : Overrides} {e : SettingsError} :
    overrides.mapM readOverride = .error e ↔ ∃ before given after reads,
      overrides = before ++ given :: after ∧ before.mapM readOverride = .ok reads ∧
        readOverride given = .error e := by
  have folded : overrides.foldlM Draft.override ({} : Settings).draft = .error e ↔
      overrides.mapM readOverride = .error e := by
    rw [foldlM_override]
    cases overrides.mapM readOverride <;> simp [Except.map]
  rw [← folded, foldlM_eq_error_iff]
  simp only [foldlM_override, Draft.override_eq]
  constructor
  · rintro ⟨before, given, after, d, split, reached, fails⟩
    cases accepted : before.mapM readOverride with
    | error other =>
      rw [accepted] at reached
      cases reached
    | ok reads =>
      cases refused : readOverride given with
      | error other =>
        rw [refused] at fails
        cases fails
        exact ⟨before, given, after, reads, split, accepted, refused⟩
      | ok read =>
        rw [refused] at fails
        cases fails
  · rintro ⟨before, given, after, reads, split, accepted, refused⟩
    exact ⟨before, given, after, Draft.putAll _ reads, split, congrArg (Except.map _) accepted,
      congrArg (Except.map _) refused⟩

/-- An override with an integer too long to be written, where a message about the override, or the
text of the switch it sets, would have to hold it. -/
inductive IsUnwritable (given : Datum × Datum) : Prop
  | name (unnamed : fieldNamed? given.1 = none) (long : given.1.isWritable = false) :
      IsUnwritable given
  | switch {field : Field} (named : fieldNamed? given.1 = some field)
      (switch : field.isSwitch = true)
      (long : given.2.isWritable = false) : IsUnwritable given

theorem readSwitch_cases (setting : String) (given : Datum) :
    (given.isWritable = false ∧ readSwitch setting given = .error .longInteger) ∨
      given.isWritable = true ∧ ((∃ b, readSwitch setting given = .ok (.bool b)) ∨
        readSwitch setting given = .error (.notBoolean setting given)) := by
  cases writable : given.isWritable with
  | false =>
    refine .inl ⟨rfl, ?_⟩
    cases given with
    | bool b => cases writable
    | _ =>
      unfold readSwitch
      dsimp only
      rw [writable]
      rfl
  | true =>
    refine .inr ⟨rfl, ?_⟩
    unfold readSwitch
    split
    · next b => exact .inl ⟨b, rfl⟩
    · rw [writable]
      dsimp only [Bool.not_true]
      split
      · contradiction
      · split
        · exact .inl ⟨true, rfl⟩
        · split
          · exact .inl ⟨false, rfl⟩
          · exact .inr rfl

theorem readOverride_of_isUnwritable {given : Datum × Datum} (unwritable : IsUnwritable given) :
    readOverride given = .error .longInteger := by
  cases unwritable with
  | name unnamed long => simp [readOverride, unnamed, unknown, long]
  | @switch field named switch long =>
    obtain ⟨-, read⟩ | ⟨writable, -⟩ := readSwitch_cases field.name given.2
    · simp only [readOverride, named, readFor, if_pos switch, read]
      rfl
    · exact nomatch long.symm.trans writable

/-- Why an override is refused. -/
theorem readOverride_eq_error {given : Datum × Datum} {e : SettingsError}
    (refused : readOverride given = .error e) :
    (e = .longInteger ∧ IsUnwritable given) ∨ e = .unknownSetting given.1 ∨
      ∃ setting, e = .notBoolean setting given.2 := by
  unfold readOverride at refused
  cases named : fieldNamed? given.1 with
  | none =>
    rw [named] at refused
    obtain rfl := Except.error.inj refused
    cases writable : given.1.isWritable with
    | false => exact .inl ⟨by simp [unknown, writable], .name named writable⟩
    | true => exact .inr (.inl (by simp [unknown, writable]))
  | some field =>
    rw [named] at refused
    dsimp only at refused
    unfold readFor at refused
    by_cases switch : field.isSwitch = true
    · rw [if_pos switch] at refused
      obtain ⟨long, read⟩ | ⟨-, ⟨b, read⟩ | read⟩ := readSwitch_cases field.name given.2
      all_goals
        rw [read] at refused
        cases refused
      · exact .inl ⟨rfl, .switch named switch long⟩
      · exact .inr (.inr ⟨field.name, rfl⟩)
    · rw [if_neg switch] at refused
      cases refused

theorem readOverride_eq_longInteger_iff {given : Datum × Datum} :
    readOverride given = .error .longInteger ↔ IsUnwritable given := by
  refine ⟨fun refused => ?_, readOverride_of_isUnwritable⟩
  obtain ⟨-, unwritable⟩ | same | ⟨setting, same⟩ := readOverride_eq_error refused
  · exact unwritable
  · cases same
  · cases same

theorem mapM_readOverride_eq_longInteger_iff {overrides : Overrides} :
    overrides.mapM readOverride = .error .longInteger ↔ ∃ before given after reads,
      overrides = before ++ given :: after ∧ before.mapM readOverride = .ok reads ∧
        IsUnwritable given := by
  simp only [mapM_readOverride_eq_error_iff, readOverride_eq_longInteger_iff]

/-- Why overrides are refused before any draft is checked. -/
theorem mapM_readOverride_eq_error {overrides : Overrides} {e : SettingsError}
    (refused : overrides.mapM readOverride = .error e) :
    e = .longInteger ∨ (∃ name, e = .unknownSetting name) ∨
      ∃ setting given, e = .notBoolean setting given := by
  obtain ⟨_, given, _, _, -, -, refused⟩ := mapM_readOverride_eq_error_iff.mp refused
  obtain ⟨same, -⟩ | same | ⟨setting, same⟩ := readOverride_eq_error refused
  · exact .inl same
  · exact .inr (.inl ⟨_, same⟩)
  · exact .inr (.inr ⟨setting, _, same⟩)

/-- What may be the key of types or of values. -/
def IsKey (given : Datum) : Prop := ∃ key : String, given = .str key ∧ key ≠ ""

/-- Only what is no key is refused, and by the name of the setting. -/
theorem readKey_cases (setting : String) (given : Datum) :
    (∃ key, readKey setting given = .ok key ∧ given = .str key ∧ key ≠ "") ∨
      ¬IsKey given ∧ readKey setting given = .error (.emptyKey setting) := by
  cases given with
  | str s =>
    unfold readKey
    dsimp only
    split
    · next empty =>
      refine .inr ⟨?_, rfl⟩
      rintro ⟨key, same, nonempty⟩
      obtain rfl := Datum.str.inj same
      exact nonempty empty
    · next nonempty => exact .inl ⟨s, rfl, rfl, nonempty⟩
  | _ => exact .inr ⟨nofun, rfl⟩

/-- The settings a draft makes: its keys are texts that are not empty, its types come to a set, a
single duplicate type is put into a list, and all else is as it is. -/
structure Draft.Makes (d : Draft) (s : Settings) : Prop where
  typeKey : d.typeKey = .str s.typeKey
  typeKey_ne : s.typeKey ≠ ""
  valueKey : d.valueKey = .str s.valueKey
  valueKey_ne : s.valueKey ≠ ""
  knownTypes : d.knownTypes.members? = some s.knownTypes
  aliasExtension : s.aliasExtension = d.aliasExtension
  memoize : s.memoize = d.memoize
  verify : s.verify = d.verify
  duplicateTypes : s.duplicateTypes = asTypeList d.duplicateTypes

/-- A draft is checked for its two keys first, and then for a set of types. -/
theorem ofDraft_cases (d : Draft) :
    (∃ s, ofDraft d = .ok s ∧ d.Makes s) ∨
    (IsKey d.typeKey ∧ IsKey d.valueKey ∧ d.knownTypes.members? = none ∧
      ofDraft d = .error .notASet) ∨
    (¬(IsKey d.typeKey ∧ IsKey d.valueKey) ∧
      ∃ setting, ofDraft d = .error (.emptyKey setting)) := by
  unfold ofDraft
  obtain ⟨key, read, isKey⟩ | ⟨noKey, read⟩ := readKey_cases "type_key" d.typeKey
  · rw [read]
    obtain ⟨key', read', isKey'⟩ | ⟨noKey, read⟩ := readKey_cases "value_key" d.valueKey
    · rw [read']
      cases known : d.knownTypes.members? with
      | none => exact .inr (.inl ⟨⟨key, isKey⟩, ⟨key', isKey'⟩, rfl, rfl⟩)
      | some types =>
        exact .inl ⟨_, rfl, isKey.1, isKey.2, isKey'.1, isKey'.2, known, rfl, rfl, rfl, rfl⟩
    · rw [read]
      exact .inr (.inr ⟨fun keys => noKey keys.2, _, rfl⟩)
  · rw [read]
    exact .inr (.inr ⟨fun keys => noKey keys.1, _, rfl⟩)

theorem ofDraft_eq_notASet_iff {d : Draft} : ofDraft d = .error .notASet ↔
    IsKey d.typeKey ∧ IsKey d.valueKey ∧ d.knownTypes.members? = none := by
  obtain ⟨s, made, makes⟩ | ⟨key, key', noSet, made⟩ | ⟨noKeys, setting, made⟩ := ofDraft_cases d
  all_goals rw [made]
  · refine iff_of_false nofun ?_
    rintro ⟨-, -, noSet⟩
    exact nomatch noSet.symm.trans makes.knownTypes
  · exact iff_of_true rfl ⟨key, key', noSet⟩
  · exact iff_of_false nofun fun ⟨key, key', _⟩ => noKeys ⟨key, key'⟩

/-- A draft that makes no settings lacks a key or a set. -/
theorem ofDraft_eq_error {d : Draft} {e : SettingsError} (failed : ofDraft d = .error e) :
    e = .notASet ∨ ∃ setting, e = .emptyKey setting := by
  obtain ⟨s, made, -⟩ | ⟨-, -, -, made⟩ | ⟨-, setting, made⟩ := ofDraft_cases d
  · cases failed.symm.trans made
  · exact .inl (Except.error.inj (failed.symm.trans made))
  · exact .inr ⟨setting, Except.error.inj (failed.symm.trans made)⟩

/-- Settings as they are made: the keys are not empty. -/
structure IsKeyed (s : Settings) : Prop where
  typeKey : s.typeKey ≠ ""
  valueKey : s.valueKey ≠ ""

theorem isKeyed_of_ofDraft {d : Draft} {s : Settings} (made : ofDraft d = .ok s) : s.IsKeyed := by
  obtain ⟨s', made', makes⟩ | ⟨-, -, -, made'⟩ | ⟨-, setting, made'⟩ := ofDraft_cases d
  · obtain rfl := Except.ok.inj (made.symm.trans made')
    exact ⟨makes.typeKey_ne, makes.valueKey_ne⟩
  · exact nomatch made.symm.trans made'
  · exact nomatch made.symm.trans made'

/-- Overrides that can be refused with no word on what is wrong. -/
inductive Trips (overrides : Overrides) : SettingsError → Prop
  | longInteger {before after : Overrides} {given : Datum × Datum} {reads : List (Field × Datum)}
      (split : overrides = before ++ given :: after)
      (accepted : before.mapM readOverride = .ok reads)
      (unwritable : IsUnwritable given) : Trips overrides .longInteger
  | notASet {reads : List (Field × Datum)} {types : Datum}
      (accepted : overrides.mapM readOverride = .ok reads)
      (typeKey : ∀ key, latest? reads .typeKey = some key → IsKey key)
      (valueKey : ∀ key, latest? reads .valueKey = some key → IsKey key)
      (given : latest? reads .knownTypes = some types) (noSet : types.members? = none) :
      Trips overrides .notASet

theorem merged_eq_longInteger_iff {s : Settings} {overrides : Overrides} :
    s.merged overrides = .error .longInteger ↔ Trips overrides .longInteger := by
  have checked (reads) : ofDraft (s.draft.putAll reads) ≠ .error .longInteger := by
    intro failed
    obtain same | ⟨setting, same⟩ := ofDraft_eq_error failed
    all_goals cases same
  rw [merged_eq_error_iff, or_iff_left fun ⟨reads, _, made⟩ => checked reads made,
    mapM_readOverride_eq_longInteger_iff]
  constructor
  · rintro ⟨before, given, after, reads, split, accepted, unwritable⟩
    exact .longInteger split accepted unwritable
  · rintro (⟨split, accepted, unwritable⟩)
    exact ⟨_, _, _, _, split, accepted, unwritable⟩

/-- A key that was good stays so if no bad one comes in its place. -/
theorem isKey_getD_iff {key : String} (nonempty : key ≠ "") {given : Option Datum} :
    IsKey (given.getD (.str key)) ↔ ∀ other, given = some other → IsKey other := by
  cases given with
  | none => exact iff_of_true ⟨key, rfl, nonempty⟩ nofun
  | some other => simp

theorem merged_eq_notASet_iff {s : Settings} (keyed : s.IsKeyed) {overrides : Overrides} :
    s.merged overrides = .error .notASet ↔ Trips overrides .notASet := by
  -- The keys and the types there were are good, so only those given last can be bad.
  have read : overrides.mapM readOverride ≠ .error .notASet := by
    intro refused
    obtain same | ⟨name, same⟩ | ⟨setting, given, same⟩ := mapM_readOverride_eq_error refused
    all_goals cases same
  have typeKey (reads) : IsKey (s.draft.putAll reads).typeKey ↔
      ∀ key, latest? reads .typeKey = some key → IsKey key := by
    have latest : (s.draft.putAll reads).typeKey =
        (latest? reads .typeKey).getD (.str s.typeKey) := s.draft.get_putAll reads .typeKey
    rw [latest, isKey_getD_iff keyed.typeKey]
  have valueKey (reads) : IsKey (s.draft.putAll reads).valueKey ↔
      ∀ key, latest? reads .valueKey = some key → IsKey key := by
    have latest : (s.draft.putAll reads).valueKey =
        (latest? reads .valueKey).getD (.str s.valueKey) := s.draft.get_putAll reads .valueKey
    rw [latest, isKey_getD_iff keyed.valueKey]
  have knownTypes (reads) : (s.draft.putAll reads).knownTypes.members? = none ↔
      ∃ types, latest? reads .knownTypes = some types ∧ types.members? = none := by
    have latest : (s.draft.putAll reads).knownTypes =
        (latest? reads .knownTypes).getD (.set s.knownTypes) := s.draft.get_putAll reads .knownTypes
    rw [latest]
    cases latest? reads .knownTypes with
    | none => exact iff_of_false nofun nofun
    | some types => simp
  rw [merged_eq_error_iff, or_iff_right read]
  simp only [ofDraft_eq_notASet_iff, typeKey, valueKey, knownTypes]
  constructor
  · rintro ⟨reads, accepted, typeKey, valueKey, types, given, noSet⟩
    exact .notASet accepted typeKey valueKey given noSet
  · rintro (_ | ⟨accepted, typeKey, valueKey, given, noSet⟩)
    exact ⟨_, accepted, typeKey, valueKey, _, given, noSet⟩

/-- Replacing settings finds no fault of the kind that making them from fields does. -/
theorem merged_ne_unknownField {s : Settings} {overrides : Overrides} {name : String} :
    s.merged overrides ≠ .error (.unknownField name) := by
  intro same
  obtain refused | ⟨reads, -, failed⟩ := merged_eq_error_iff.mp same
  · obtain same | ⟨name, same⟩ | ⟨setting, given, same⟩ := mapM_readOverride_eq_error refused
    all_goals cases same
  · obtain same | ⟨setting, same⟩ := ofDraft_eq_error failed
    all_goals cases same

end DesignTokens.Settings
