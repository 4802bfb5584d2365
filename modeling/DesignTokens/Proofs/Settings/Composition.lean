import DesignTokens.Proofs.Settings.Overrides
import Mathlib.Data.List.Perm.Basic

/-! Settings that are replaced more than once. Overrides are a mapping, so no field is named twice
and each can be told on its own: what a mapping has for it, read as that field is read, or else
what was there before. Main statement: replacing settings twice comes to replacing them once, by
the first mapping with the entries of the second put over it. -/
namespace DesignTokens

namespace Datum

theorem agrees_str_left {s : String} {d : Datum} : (str s).agrees d = true ↔ d = str s := by
  cases d <;> simp [agrees, agreesPlain, number?, eq_comm]

private theorem agrees_str_right {s : String} {d : Datum} :
    d.agrees (str s) = true ↔ d = str s := by
  cases d <;> simp [agrees, agreesPlain, number?]

end Datum

namespace Settings

theorem fieldNamed?_eq_some_iff {name : Datum} {field : Field} :
    fieldNamed? name = some field ↔ name = .str field.name := by
  constructor
  · intro named
    cases name with
    | str s =>
      have found : Field.all.find? (·.name = s) = some field := named
      have same := List.find?_some found
      rw [decide_eq_true_iff] at same
      rw [same]
    | _ => cases named
  · rintro rfl
    exact Field.ofName?_name field

theorem fieldNamed?_of_agrees {name other : Datum} (agree : name.agrees other = true) :
    fieldNamed? name = fieldNamed? other := by
  ext field
  rw [fieldNamed?_eq_some_iff, fieldNamed?_eq_some_iff]
  constructor
  · rintro rfl
    exact Datum.agrees_str_left.mp agree
  · rintro rfl
    exact Datum.agrees_str_right.mp agree

theorem agrees_of_fieldNamed? {name other : Datum} {field : Field}
    (named : fieldNamed? name = some field) (again : fieldNamed? other = some field) :
    name.agrees other = true := by
  rw [fieldNamed?_eq_some_iff] at named again
  rw [named, again, Datum.agrees_str_left]

namespace Overrides

/-- No two keys agree. -/
def IsMapping (overrides : Overrides) : Prop :=
  overrides.Pairwise fun given other => given.1.agrees other.1 = false

/-- The overrides with others put over them: an entry takes the place of the one whose key agrees
with its own, or comes last. -/
def updated (overrides others : Overrides) : Overrides :=
  others.foldl (fun overrides given => Datum.putEntry given.1 given.2 overrides) overrides

def NamesOnce (overrides : Overrides) : Prop :=
  overrides.Pairwise fun given other =>
    ∀ field, fieldNamed? given.1 = some field → fieldNamed? other.1 ≠ some field

/-- Every key names a field. -/
def NamesFields (overrides : Overrides) : Prop :=
  ∀ given ∈ overrides, ∃ field, fieldNamed? given.1 = some field

/-- The first value for a field. -/
def valueFor? (overrides : Overrides) (field : Field) : Option Datum :=
  (overrides.find? fun given => fieldNamed? given.1 = some field).map Prod.snd

variable {overrides others : Overrides} {given : Datum × Datum} {field : Field}

theorem IsMapping.namesOnce (mapping : overrides.IsMapping) : overrides.NamesOnce := by
  refine mapping.imp fun apart field named again => ?_
  rw [agrees_of_fieldNamed? named again] at apart
  contradiction

theorem NamesOnce.perm (once : overrides.NamesOnce) (perm : overrides.Perm others) :
    others.NamesOnce :=
  (perm.pairwise_iff fun apart field named again => apart field again named).mp once

theorem valueFor?_cons (given : Datum × Datum) (rest : Overrides) (field : Field) :
    valueFor? (given :: rest) field =
      if fieldNamed? given.1 = some field then some given.2 else valueFor? rest field := by
  unfold valueFor?
  rw [List.find?_cons]
  by_cases named : fieldNamed? given.1 = some field <;> simp [named]

theorem valueFor?_eq_none_iff :
    overrides.valueFor? field = none ↔ ∀ given ∈ overrides, fieldNamed? given.1 ≠ some field := by
  simp [valueFor?]

/-- A field that is named first is not named again. -/
theorem NamesOnce.valueFor?_rest (once : NamesOnce (given :: overrides))
    (named : fieldNamed? given.1 = some field) : overrides.valueFor? field = none :=
  valueFor?_eq_none_iff.mpr fun _ later => (List.pairwise_cons.mp once).1 _ later field named

theorem NamesOnce.valueFor?_eq_some_iff (once : overrides.NamesOnce) {value : Datum} :
    overrides.valueFor? field = some value ↔
      ∃ given ∈ overrides, fieldNamed? given.1 = some field ∧ given.2 = value := by
  induction overrides with
  | nil => simp [valueFor?]
  | cons first rest ih =>
    rw [valueFor?_cons]
    by_cases named : fieldNamed? first.1 = some field
    · have later : ¬∃ given ∈ rest, fieldNamed? given.1 = some field ∧ given.2 = value := by
        rintro ⟨given, later, again, -⟩
        exact valueFor?_eq_none_iff.mp (once.valueFor?_rest named) given later again
      simp only [List.mem_cons, or_and_right, exists_or, exists_eq_left, named, if_true, true_and,
        Option.some.injEq, later, or_false]
    · rw [if_neg named, ih (List.pairwise_cons.mp once).2]
      simp [named]

theorem NamesOnce.valueFor?_perm (once : overrides.NamesOnce) (perm : overrides.Perm others)
    (field : Field) : overrides.valueFor? field = others.valueFor? field := by
  ext value
  rw [once.valueFor?_eq_some_iff, (once.perm perm).valueFor?_eq_some_iff]
  simp only [perm.mem_iff]

/-- An entry that is put in brings the name it has, or takes the place of that name. -/
theorem exists_of_mem_putEntry {entry : Datum × Datum}
    (member : entry ∈ Datum.putEntry given.1 given.2 overrides) :
    fieldNamed? entry.1 = fieldNamed? given.1 ∨ entry ∈ overrides := by
  induction overrides with
  | nil =>
    rw [Datum.putEntry, List.mem_singleton] at member
    exact .inl (congrArg (fieldNamed? ·.1) member)
  | cons first rest ih =>
    rw [Datum.putEntry] at member
    split at member
    · next agree =>
      rcases List.mem_cons.mp member with rfl | later
      · exact .inl (fieldNamed?_of_agrees agree)
      · exact .inr (List.mem_cons_of_mem _ later)
    · rcases List.mem_cons.mp member with rfl | later
      · exact .inr List.mem_cons_self
      · exact (ih later).imp_right (List.mem_cons_of_mem _)

theorem namesFields_putEntry :
    NamesFields (Datum.putEntry given.1 given.2 overrides) ↔
      (∃ field, fieldNamed? given.1 = some field) ∧ overrides.NamesFields := by
  unfold NamesFields
  induction overrides with
  | nil => simp [Datum.putEntry]
  | cons first rest ih =>
    rw [Datum.putEntry]
    split
    · next agree =>
      rw [List.forall_mem_cons, List.forall_mem_cons, fieldNamed?_of_agrees agree]
      exact and_congr_right fun named => (and_iff_right named).symm
    · rw [List.forall_mem_cons, List.forall_mem_cons, ih, and_left_comm]

theorem valueFor?_putEntry (given : Datum × Datum) (overrides : Overrides) (field : Field) :
    valueFor? (Datum.putEntry given.1 given.2 overrides) field =
      if fieldNamed? given.1 = some field then some given.2 else overrides.valueFor? field := by
  induction overrides with
  | nil => exact valueFor?_cons given [] field
  | cons first rest ih =>
    rw [Datum.putEntry]
    split
    · next agree =>
      rw [valueFor?_cons, valueFor?_cons, fieldNamed?_of_agrees agree]
      split <;> rfl
    · next apart =>
      rw [valueFor?_cons, valueFor?_cons, ih]
      by_cases named : fieldNamed? given.1 = some field
      · have other : fieldNamed? first.1 ≠ some field := fun same =>
          apart (agrees_of_fieldNamed? same named)
        rw [if_neg other, if_pos named, if_pos named]
      · rw [if_neg named, if_neg named]

theorem NamesOnce.putEntry (once : overrides.NamesOnce) :
    NamesOnce (Datum.putEntry given.1 given.2 overrides) := by
  induction overrides with
  | nil => exact List.pairwise_singleton _ _
  | cons first rest ih =>
    obtain ⟨apart, once⟩ := List.pairwise_cons.mp once
    rw [Datum.putEntry]
    split
    · exact List.pairwise_cons.mpr ⟨apart, once⟩
    · next different =>
      refine List.pairwise_cons.mpr ⟨fun entry member field named again => ?_, ih once⟩
      obtain same | known := exists_of_mem_putEntry member
      · exact different (agrees_of_fieldNamed? named (same ▸ again))
      · exact apart entry known field named again

theorem namesFields_updated :
    (overrides.updated others).NamesFields ↔ overrides.NamesFields ∧ others.NamesFields := by
  unfold updated
  induction others generalizing overrides with
  | nil => simp [NamesFields]
  | cons given rest ih =>
    have split : NamesFields (given :: rest) ↔
        (∃ field, fieldNamed? given.1 = some field) ∧ NamesFields rest := List.forall_mem_cons
    rw [List.foldl_cons, ih, namesFields_putEntry, split, and_assoc, and_left_comm]

theorem NamesOnce.updated (once : overrides.NamesOnce) : (overrides.updated others).NamesOnce := by
  unfold Overrides.updated
  induction others generalizing overrides with
  | nil => exact once
  | cons given rest ih => exact ih once.putEntry

theorem valueFor?_updated (once : others.NamesOnce) :
    (overrides.updated others).valueFor? field =
      (others.valueFor? field).or (overrides.valueFor? field) := by
  unfold updated
  induction others generalizing overrides with
  | nil => rfl
  | cons given rest ih =>
    rw [List.foldl_cons, ih (List.pairwise_cons.mp once).2, valueFor?_putEntry, valueFor?_cons]
    by_cases named : fieldNamed? given.1 = some field
    · rw [if_pos named, if_pos named, once.valueFor?_rest named]
      rfl
    · rw [if_neg named, if_neg named]

end Overrides

theorem Draft.ext_get {d e : Draft} (same : ∀ field, d.get field = e.get field) : d = e := by
  obtain ⟨⟩ := d
  obtain ⟨⟩ := e
  rw [Draft.mk.injEq]
  exact ⟨same .typeKey, same .valueKey, same .aliasExtension, same .memoize, same .verify,
    same .duplicateTypes, same .knownTypes⟩

/-- What overrides make of a draft: a field they name is read from them, and any other one is as
it was. -/
structure Draft.Overlaid (d : Draft) (overrides : Overrides) (e : Draft) : Prop where
  named : overrides.NamesFields
  read : ∀ {field given}, overrides.valueFor? field = some given →
    readFor field given = .ok (e.get field)
  kept : ∀ {field}, overrides.valueFor? field = none → e.get field = d.get field

theorem Draft.override_eq_ok_iff {d e : Draft} {given : Datum × Datum} :
    d.override given = .ok e ↔ ∃ field value, fieldNamed? given.1 = some field ∧
      readFor field given.2 = .ok value ∧ e = d.put value field := by
  rw [override_eq, readOverride]
  cases fieldNamed? given.1 with
  | none => simp [Except.map]
  | some field =>
    cases read : readFor field given.2 with
    | error e => simp [Except.map, read]
    | ok value => simp [Except.map, read, eq_comm]

/-- The first override is read and put, and the others do not name its field again. -/
theorem Draft.overlaid_cons_iff {d e : Draft} {given : Datum × Datum} {rest : Overrides}
    (once : Overrides.NamesOnce (given :: rest)) :
    d.Overlaid (given :: rest) e ↔ ∃ d', d.override given = .ok d' ∧ d'.Overlaid rest e := by
  constructor
  · intro overlaid
    obtain ⟨⟨field, named⟩, names⟩ := List.forall_mem_cons.mp overlaid.named
    have read : readFor field given.2 = .ok (e.get field) :=
      overlaid.read ((Overrides.valueFor?_cons ..).trans (if_pos named))
    have rest_eq {other : Field} (apart : other ≠ field) :
        Overrides.valueFor? (given :: rest) other = Overrides.valueFor? rest other := by
      refine (Overrides.valueFor?_cons ..).trans (if_neg fun same => apart ?_)
      exact Option.some.inj (same.symm.trans named)
    refine ⟨d.put (e.get field) field,
      Draft.override_eq_ok_iff.mpr ⟨field, _, named, read, rfl⟩, names, ?_, ?_⟩
    · intro other value found
      have apart : other ≠ field := by
        rintro rfl
        rw [once.valueFor?_rest named] at found
        contradiction
      exact overlaid.read ((rest_eq apart).trans found)
    · intro other absent
      rw [Draft.get_put]
      split
      · next same => rw [same]
      · next apart => exact overlaid.kept ((rest_eq apart).trans absent)
  · rintro ⟨d', overridden, overlaid⟩
    obtain ⟨field, value, named, read, rfl⟩ := Draft.override_eq_ok_iff.mp overridden
    have stays : e.get field = value := by
      rw [overlaid.kept (once.valueFor?_rest named), Draft.get_put, if_pos rfl]
    refine ⟨List.forall_mem_cons.mpr ⟨⟨field, named⟩, overlaid.named⟩, ?_, ?_⟩
    · intro other value' found
      rw [Overrides.valueFor?_cons] at found
      split at found
      · next same =>
        obtain rfl := Option.some.inj (named.symm.trans same)
        obtain rfl := Option.some.inj found
        rw [stays, read]
      · exact overlaid.read found
    · intro other absent
      rw [Overrides.valueFor?_cons] at absent
      split at absent
      · contradiction
      · next different =>
        have apart : other ≠ field := fun same => different (same ▸ named)
        rw [overlaid.kept absent, Draft.get_put, if_neg apart]

theorem foldlM_override_eq_ok_iff {overrides : Overrides} (once : overrides.NamesOnce)
    {d e : Draft} : overrides.foldlM Draft.override d = .ok e ↔ d.Overlaid overrides e := by
  induction overrides generalizing d with
  | nil =>
    constructor
    · intro same
      obtain rfl := Except.ok.inj same
      exact ⟨nofun, nofun, fun _ => rfl⟩
    · intro overlaid
      exact congrArg Except.ok (Draft.ext_get fun field => (overlaid.kept rfl).symm)
  | cons given rest ih =>
    rw [Draft.overlaid_cons_iff once, List.foldlM_cons]
    simp only [← ih (List.pairwise_cons.mp once).2]
    cases d.override given with
    | error e' => exact iff_of_false nofun (by simp)
    | ok d' => simp [bind, Except.bind]

theorem Draft.Overlaid.updated_iff {d e t : Draft} {overrides others : Overrides}
    (once : others.NamesOnce) (overlaid : d.Overlaid overrides e) :
    d.Overlaid (overrides.updated others) t ↔ e.Overlaid others t := by
  have found (field : Field) : (overrides.updated others).valueFor? field =
      (others.valueFor? field).or (overrides.valueFor? field) := Overrides.valueFor?_updated once
  constructor
  · intro both
    refine ⟨(Overrides.namesFields_updated.mp both.named).2, fun {field given} later => ?_,
      fun {field} absent => ?_⟩
    · exact both.read ((found field).trans (by rw [later]; rfl))
    · cases before : overrides.valueFor? field with
      | none =>
        rw [both.kept ((found field).trans (by rw [absent, before]; rfl)), overlaid.kept before]
      | some given =>
        have again := both.read ((found field).trans (by rw [absent, before]; rfl))
        exact Except.ok.inj (again.symm.trans (overlaid.read before))
  · intro second
    refine ⟨Overrides.namesFields_updated.mpr ⟨overlaid.named, second.named⟩,
      fun {field given} given' => ?_, fun {field} absent => ?_⟩
    · rw [found field] at given'
      cases later : others.valueFor? field with
      | some other =>
        rw [later] at given'
        obtain rfl := Option.some.inj given'
        exact second.read later
      | none =>
        rw [later] at given'
        rw [second.kept later]
        exact overlaid.read given'
    · rw [found field, Option.or_eq_none_iff] at absent
      rw [second.kept absent.1, overlaid.kept absent.2]

theorem Draft.Overlaid.perm {d e : Draft} {overrides others : Overrides}
    (overlaid : d.Overlaid overrides e) (once : overrides.NamesOnce)
    (perm : overrides.Perm others) : d.Overlaid others e where
  named given member := overlaid.named given (perm.mem_iff.mpr member)
  read found := overlaid.read ((once.valueFor?_perm perm _).trans found)
  kept absent := overlaid.kept ((once.valueFor?_perm perm _).trans absent)

theorem Draft.overlaid_perm {d e : Draft} {overrides others : Overrides}
    (once : overrides.NamesOnce) (perm : overrides.Perm others) :
    d.Overlaid overrides e ↔ d.Overlaid others e :=
  ⟨fun overlaid => overlaid.perm once perm,
    fun overlaid => overlaid.perm (once.perm perm) perm.symm⟩

/-- Data that have members are taken as the set of these. -/
def asSet (given : Datum) : Datum := (given.members?.map .set).getD given

theorem members?_asSet (given : Datum) : (asSet given).members? = given.members? := by
  unfold asSet
  cases known : given.members? with
  | none => exact known
  | some types => rfl

theorem asSet_asSet (given : Datum) : asSet (asSet given) = asSet given := by
  conv_lhs => rw [asSet, members?_asSet]
  unfold asSet
  cases given.members? <;> rfl

theorem asTypeList_asTypeList (given : Datum) :
    asTypeList (asTypeList given) = asTypeList given := by
  cases given <;> rfl

/-- What settings hold of a value that is given for a field. -/
def Field.settle : Field → Datum → Datum
  | .knownTypes, given => asSet given
  | .duplicateTypes, given => asTypeList given
  | _, given => given

theorem Field.settle_settle (field : Field) (given : Datum) :
    field.settle (field.settle given) = field.settle given := by
  cases field with
  | knownTypes => exact asSet_asSet given
  | duplicateTypes => exact asTypeList_asTypeList given
  | _ => rfl

namespace Draft

def settled (d : Draft) : Draft :=
  { d with duplicateTypes := asTypeList d.duplicateTypes, knownTypes := asSet d.knownTypes }

theorem get_settled (d : Draft) (field : Field) :
    d.settled.get field = field.settle (d.get field) := by
  cases field <;> rfl

theorem settled_putAll (d : Draft) (reads : List (Field × Datum)) :
    (d.settled.putAll reads).settled = (d.putAll reads).settled := by
  apply ext_get
  intro field
  rw [get_settled, get_settled, get_putAll, get_putAll]
  cases latest? reads field with
  | none => rw [Option.getD_none, Option.getD_none, get_settled, Field.settle_settle]
  | some value => rfl

end Draft

/-- Settings are made of what is settled, each field for itself. -/
theorem ofDraft_settled (d : Draft) : ofDraft d.settled = ofDraft d := by
  simp only [ofDraft, Draft.settled, members?_asSet, asTypeList_asTypeList]

theorem draft_of_ofDraft {d : Draft} {s : Settings} (made : ofDraft d = .ok s) :
    s.draft = d.settled := by
  obtain ⟨s', made', makes⟩ | ⟨-, -, -, made'⟩ | ⟨-, setting, made'⟩ := ofDraft_cases d
  · obtain rfl := Except.ok.inj (made.symm.trans made')
    rw [draft, ← makes.typeKey, ← makes.valueKey, makes.aliasExtension, makes.memoize,
      makes.verify, makes.duplicateTypes]
    simp [Draft.settled, asSet, makes.knownTypes]
  · exact nomatch made.symm.trans made'
  · exact nomatch made.symm.trans made'

/-- Replacing settings goes on from the draft that they were made of. -/
theorem merged_of_ofDraft {d : Draft} {s : Settings} (made : ofDraft d = .ok s)
    (overrides : Overrides) :
    s.merged overrides = (overrides.foldlM Draft.override d).bind ofDraft := by
  rw [merged_eq, foldlM_override, draft_of_ofDraft made]
  cases overrides.mapM readOverride with
  | error e => rfl
  | ok reads =>
    calc ofDraft (d.settled.putAll reads)
      _ = ofDraft (d.settled.putAll reads).settled := (ofDraft_settled _).symm
      _ = ofDraft (d.putAll reads).settled := congrArg ofDraft (d.settled_putAll reads)
      _ = ofDraft (d.putAll reads) := ofDraft_settled _

theorem merged_eq_ok_iff {d : Draft} {s t : Settings} (made : ofDraft d = .ok s)
    {overrides : Overrides} (once : overrides.NamesOnce) :
    s.merged overrides = .ok t ↔ ∃ e, d.Overlaid overrides e ∧ ofDraft e = .ok t := by
  rw [merged_of_ofDraft made]
  simp only [← foldlM_override_eq_ok_iff once]
  cases overrides.foldlM Draft.override d with
  | error e => exact iff_of_false nofun (by simp)
  | ok e => simp [Except.bind]

/-- Settings that were made of a draft, as all are. -/
def IsMade (s : Settings) : Prop := ∃ d, ofDraft d = .ok s

/-- How replacing the settings goes, whatever the overrides hold. -/
structure Composes (s : Settings) : Prop where
  /-- Replacing them twice succeeds where replacing them once, by both mappings with the second
  over the first, does, and comes to the same. -/
  twice : ∀ {first second : Overrides} {between : Settings}, first.IsMapping → second.IsMapping →
    s.merged first = .ok between → ∀ t,
      between.merged second = .ok t ↔ s.merged (first.updated second) = .ok t
  unchanged : s.merged [] = .ok s
  reordered : ∀ {overrides others : Overrides}, overrides.IsMapping → overrides.Perm others →
    ∀ t, s.merged overrides = .ok t ↔ s.merged others = .ok t
  kept : ∀ {overrides : Overrides} {t : Settings}, overrides.IsMapping →
    s.merged overrides = .ok t → ∀ field,
      (∀ given ∈ overrides, fieldNamed? given.1 ≠ some field) →
        t.draft.get field = s.draft.get field

theorem composes_of_isMade {s : Settings} (isMade : s.IsMade) : s.Composes := by
  obtain ⟨d, made⟩ := isMade
  refine ⟨?_, ?_, ?_, ?_⟩
  · intro first second between mapping mapping' merged t
    obtain ⟨e, overlaid, made'⟩ := (merged_eq_ok_iff made mapping.namesOnce).mp merged
    rw [merged_eq_ok_iff made' mapping'.namesOnce,
      merged_eq_ok_iff made mapping.namesOnce.updated]
    simp only [overlaid.updated_iff mapping'.namesOnce]
  · rw [merged_of_ofDraft made]
    exact made
  · intro overrides others mapping perm t
    have once := mapping.namesOnce
    rw [merged_eq_ok_iff made once, merged_eq_ok_iff made (once.perm perm)]
    simp only [Draft.overlaid_perm once perm]
  · intro overrides t mapping merged field absent
    obtain ⟨e, overlaid, made'⟩ := (merged_eq_ok_iff made mapping.namesOnce).mp merged
    rw [draft_of_ofDraft made', draft_of_ofDraft made, Draft.get_settled, Draft.get_settled,
      overlaid.kept (Overrides.valueFor?_eq_none_iff.mpr absent)]

/-- One duplicate type without a list, and a word for a switch. -/
def forgetful : Overrides :=
  [(.str "duplicate_types", .str "dimension"), (.str "memoize", .str " Off ")]

/-- A set with a repeated member, and a switch that `forgetful` sets too. -/
def mindful : Overrides :=
  [(.str "known_types", .list [.str "color", .str "color"]), (.str "memoize", .bool true)]

def forgetting : Settings :=
  { duplicateTypes := .list [.str "dimension"], memoize := .bool false }

private theorem readSwitch_off : readSwitch "memoize" (.str " Off ") = .ok (.bool false) := by
  have word : (String.ofList (Text.stripped (Datum.str " Off ").inMessage)).toLower = "off" := by
    decide +kernel
  unfold readSwitch
  dsimp only
  rw [word]
  rfl

theorem merged_forgetful : ({} : Settings).merged forgetful = .ok forgetting := by
  have last (d : Draft) :
      d.override (.str "memoize", .str " Off ") = .ok (d.put (.bool false) .memoize) :=
    Draft.override_eq_ok_iff.mpr ⟨.memoize, _, by decide, readSwitch_off, rfl⟩
  have steps : ({} : Settings).merged forgetful =
      ((({} : Settings).draft.put (.str "dimension") .duplicateTypes).override
        (.str "memoize", .str " Off ") >>= pure).bind ofDraft := rfl
  rw [steps, last]
  rfl

theorem composes_forgetful :
    ({} : Settings).IsMade ∧ forgetful.IsMapping ∧ mindful.IsMapping ∧
      ({} : Settings).merged forgetful = .ok forgetting ∧
      (∃ t, forgetting.merged mindful = .ok t) ∧
      ∀ t, forgetting.merged mindful = .ok t ↔
        ({} : Settings).merged (forgetful.updated mindful) = .ok t := by
  have isMade : ({} : Settings).IsMade := ⟨({} : Settings).draft, rfl⟩
  have mapping : forgetful.IsMapping := by
    unfold forgetful Overrides.IsMapping
    decide
  have mapping' : mindful.IsMapping := by
    unfold mindful Overrides.IsMapping
    decide
  exact ⟨isMade, mapping, mapping', merged_forgetful, ⟨_, rfl⟩,
    (composes_of_isMade isMade).twice mapping mapping' merged_forgetful⟩

end Settings

end DesignTokens
