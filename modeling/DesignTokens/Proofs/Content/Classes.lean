import DesignTokens.Proofs.Content
import DesignTokens.Proofs.Value.Sites
import Mathlib.Data.List.Pairwise

/-! What a value amounts to, told from the value and its extensions alone. Main statement: the
sites are the references strictly inside a value, and with them the classes of values and the
paths these refer to are settled. -/
namespace DesignTokens

theorem Apart.ne {location other : Location} (apart : Apart location other) : location ≠ other := by
  rintro rfl
  exact apart.1 List.prefix_rfl

namespace Value

/-- The sites of a value are told by what stands in it. -/
structure AreSites (value : Value) (sites : List ReferenceSite) : Prop where
  /-- They come in the order in which the parts are written. -/
  ordered : sites = value.parts.filterMap Part.site?
  /-- There is one wherever a reference stands strictly inside, and nowhere else. -/
  complete : ∀ location reference, ⟨location, reference⟩ ∈ sites ↔ location ≠ [] ∧
    ∃ text, value.HoldsAt location (.str text) ∧ Reference.parse? text = some reference
  held : ∀ site ∈ sites, value.get site.location = .ok (.str site.reference.raw)
  nodup : (sites.map (·.location)).Nodup
  apart : ∀ site ∈ sites, ∀ other ∈ sites, site.location <+: other.location → site = other

theorem AllApart.eq_of_prefix {sites : List ReferenceSite} (apart : AllApart sites)
    {site other : ReferenceSite} (here : site ∈ sites) (there : other ∈ sites)
    (leads : site.location <+: other.location) : site = other := by
  by_contra different
  have : Std.Symm fun site other : ReferenceSite => Apart site.location other.location :=
    ⟨fun _ _ apart => apart.symm⟩
  exact (List.Pairwise.forall apart here there different).1 leads

theorem areSites_sites {value : Value} (h : value.isWellKeyed = true) :
    value.AreSites value.sites := by
  have apart := allApart_sites h
  refine ⟨sites_eq value, fun _ _ => mem_sites_iff h, ?_, ?_, ?_⟩
  · rintro ⟨location, reference⟩ member
    obtain ⟨-, text, holds, refers⟩ := (mem_sites_iff h).mp member
    rw [Reference.raw_of_parse? refers]
    exact holds.get
  · rw [List.Nodup, List.pairwise_map]
    exact apart.imp Apart.ne
  · intro site here other there
    exact apart.eq_of_prefix here there

end Value

namespace Content

def IsContainer (value : Value) : Prop :=
  (∃ items, value = .list items) ∨ ∃ fields, value = .object fields

/-- The metadata of design tools in the extensions name a target. -/
def Names (extensions : Entries Value) (target : String) : Prop :=
  ∃ data : Entries Value, extensions.lookup "com.figma.aliasData" = some (.object data) ∧
    data.lookup "targetVariableName" = some (.str target) ∧ target ≠ ""

theorem aliasTarget?_eq_some_iff {extensions : Entries Value} {target : String} :
    aliasTarget? extensions = some target ↔ Names extensions target := by
  unfold aliasTarget? Names aliasExtension
  constructor
  · intro found
    split at found
    · next named text =>
      split at found
      · contradiction
      · next filled =>
        obtain rfl := Option.some.inj found
        obtain ⟨value, here, inside⟩ := Option.bind_eq_some_iff.mp text
        cases value <;> try contradiction
        exact ⟨_, here, inside, filled⟩
    · contradiction
  · rintro ⟨data, here, inside, filled⟩
    simp [here, Value.field?, inside, filled]

/-- What a value with its extensions amounts to: the first of four classes that fits. -/
inductive Classifies (value : Value) (extensions : Entries Value) : Content → Prop where
  | whole {text : String} {reference : Reference} (same : value = .str text)
      (refers : Reference.parse? text = some reference) :
      Classifies value extensions (.alias reference)
  | around {first : ReferenceSite} {rest : List ReferenceSite} (holds : IsContainer value)
      (sites : value.sites = first :: rest) :
      Classifies value extensions (.composite value first rest)
  | named {target : String} (plain : ∀ text, value = .str text → Reference.parse? text = none)
      (empty : IsContainer value → value.sites = []) (names : Names extensions target) :
      Classifies value extensions (.alias (.ofPath target))
  | concrete (plain : ∀ text, value = .str text → Reference.parse? text = none)
      (empty : IsContainer value → value.sites = [])
      (nameless : ∀ target, ¬ Names extensions target) :
      Classifies value extensions (.concrete value)

theorem ofValue?_eq_none_iff {value : Value} : Reference.ofValue? value = none ↔
    ∀ text, value = .str text → Reference.parse? text = none := by
  cases value <;> simp [Reference.ofValue?]

theorem sites_eq_nil_iff {value : Value} :
    value.sites = [] ↔ (IsContainer value → value.sites = []) := by
  refine ⟨fun empty _ => empty, fun empty => ?_⟩
  cases value with
  | list items => exact empty (.inl ⟨items, rfl⟩)
  | object fields => exact empty (.inr ⟨fields, rfl⟩)
  | _ => simp [Value.sites_eq, Value.parts, Value.Part.site?]

variable {value : Value} {extensions : Entries Value} {content : Content}

theorem Classifies.classify_eq (classifies : Classifies value extensions content) :
    classify value extensions = content := by
  cases classifies with
  | whole same refers => simp [classify, same, Reference.ofValue?, refers]
  | around holds sites =>
    have plain : Reference.ofValue? value = none := by
      rcases holds with ⟨items, rfl⟩ | ⟨fields, rfl⟩ <;> rfl
    simp [classify, plain, sites]
  | named plain empty names =>
    simp [classify, ofValue?_eq_none_iff.mpr plain, sites_eq_nil_iff.mpr empty,
      aliasTarget?_eq_some_iff.mpr names]
  | concrete plain empty nameless =>
    have unnamed : aliasTarget? extensions = none := by
      rw [Option.eq_none_iff_forall_ne_some]
      intro target named
      exact nameless target (aliasTarget?_eq_some_iff.mp named)
    simp [classify, ofValue?_eq_none_iff.mpr plain, sites_eq_nil_iff.mpr empty, unnamed]

theorem exists_classifies (value : Value) (extensions : Entries Value) :
    ∃ content, Classifies value extensions content := by
  cases refers : Reference.ofValue? value with
  | some reference =>
    cases value with
    | str text => exact ⟨_, .whole rfl refers⟩
    | _ => contradiction
  | none =>
    have plain := ofValue?_eq_none_iff.mp refers
    cases sites : value.sites with
    | cons first rest =>
      have holds : IsContainer value := by
        by_contra other
        have empty := sites_eq_nil_iff.mpr fun holds => absurd holds other
        rw [empty] at sites
        contradiction
      exact ⟨_, .around holds sites⟩
    | nil =>
      by_cases named : ∃ target, Names extensions target
      · obtain ⟨target, names⟩ := named
        exact ⟨_, .named plain (fun _ => sites) names⟩
      · exact ⟨_, .concrete plain (fun _ => sites) (not_exists.mp named)⟩

theorem classify_eq_iff : classify value extensions = content ↔
    Classifies value extensions content := by
  refine ⟨?_, Classifies.classify_eq⟩
  rintro rfl
  obtain ⟨content, classifies⟩ := exists_classifies value extensions
  rwa [classifies.classify_eq]

def references : Content → List Reference
  | .concrete _ => []
  | .alias reference => [reference]
  | .composite _ first rest => (first :: rest).map (·.reference)

theorem mem_targets_iff {path : String} :
    path ∈ content.targets ↔ ∃ reference ∈ content.references, reference.path = path := by
  cases content with
  | concrete value => simp [references]
  | «alias» reference => simp [references, targets, eq_comm]
  | composite value first rest =>
    rw [mem_targets_composite, references]
    simp

/-- The sites of a value are exactly its references strictly inside, and its class and the paths
it refers to follow from them. -/
theorem sites_and_class {value : Value} (h : value.isWellKeyed = true)
    (extensions : Entries Value) :
    value.AreSites value.sites ∧
      (∀ content, classify value extensions = content ↔ Classifies value extensions content) ∧
      (classify value extensions).targets.Nodup ∧
      ∀ path, path ∈ (classify value extensions).targets ↔
        ∃ reference ∈ (classify value extensions).references, reference.path = path :=
  ⟨Value.areSites_sites h, fun _ => classify_eq_iff, nodup_targets _, fun _ => mem_targets_iff⟩

/-- References at two depths, one with a line break behind it, beside texts that are none. -/
def gradient : Value :=
  .object [
    ("start", .str "\x7bink\x7d"),
    ("stops", .list [.str "\x7b\x7d", .object [("\x7bend\x7d", .str "\x7bend\x7d\n")],
      .str "\x7bink\x7d \x7bend\x7d"])]

theorem sites_and_class_gradient :
    let extensions : Entries Value := [("com.figma.aliasData",
      .object [("targetVariableName", .str "base")])]
    let start : ReferenceSite := ⟨[.key "start"], .ofPath "ink"⟩
    let stop : ReferenceSite :=
      ⟨[.key "stops", .index 1, .key "\x7bend\x7d"], ⟨"end", "\x7bend\x7d\n"⟩⟩
    gradient.isWellKeyed = true ∧ gradient.AreSites [start, stop] ∧
      Classifies gradient extensions (.composite gradient start [stop]) := by
  intro extensions start stop
  have h : gradient.isWellKeyed = true := by decide
  obtain ⟨sites, classes, -⟩ := sites_and_class h extensions
  exact ⟨h, sites, (classes _).mp rfl⟩

end Content

end DesignTokens
