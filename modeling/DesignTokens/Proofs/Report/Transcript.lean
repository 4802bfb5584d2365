import DesignTokens.Proofs.Graph.Dangling
import DesignTokens.Proofs.Json.RoundTrip
import DesignTokens.Proofs.Report.Writable
import DesignTokens.Proofs.Session.Run

/-! What a report says as JSON. Its text is read back, by a parser or from a file, to a value that
tells all that the report holds, of the results those that are shown. -/
namespace DesignTokens

namespace Value

def text? : Value → Option String
  | .str s => some s
  | _ => none

def integer? : Value → Option Int
  | .int n => some n
  | _ => none

@[simp] theorem text?_str (s : String) : text? (.str s) = some s := rfl

@[simp] theorem integer?_int (n : Int) : integer? (.int n) = some n := rfl

section

variable {α : Type} (read : Value → Option α)

def listOf? : Value → Option (List α)
  | .list items => items.mapM read
  | _ => none

def entriesOf? : Value → Option (Entries α)
  | .object fields => fields.mapM fun field => (read field.2).map (field.1, ·)
  | _ => none

variable {read} {write : α → Value} (back : ∀ a, read (write a) = some a)

include back

theorem listOf?_map (items : List α) : listOf? read (.list (items.map write)) = some items := by
  rw [listOf?]
  induction items with
  | nil => rfl
  | cons item rest ih =>
    rw [List.map_cons, List.mapM_cons, back, ih]
    rfl

theorem entriesOf?_map (entries : Entries α) :
    entriesOf? read (.object (entries.map fun entry => (entry.1, write entry.2))) =
      some entries := by
  rw [entriesOf?]
  induction entries with
  | nil => rfl
  | cons entry rest ih =>
    rw [List.map_cons, List.mapM_cons, back, ih]
    rfl

end

end Value

/-- What a report says as JSON. -/
structure Transcript where
  sources : List String
  results : Entries Resolution
  cycles : List CycleWarning
  duplicates : List DuplicateGroup
  skipped : List SkippedNode
  dangling : Entries (List String)
  unknownTypes : Entries Int
  generatedAt : String
  version : String
  statusCounts : Entries Int

namespace Transcript

def texts? : Value → Option (List String) := Value.listOf? Value.text?

def resolution? (value : Value) : Option Resolution := do
  let path ← (value.field? "path").bind Value.text?
  let status ← (value.field? "status").bind Value.text?
  return ⟨path, ← Status.ofName? status, ← value.field? "value"⟩

def cycle? (value : Value) : Option CycleWarning := do
  let chain ← (value.field? "chain").bind texts?
  return ⟨chain, ← (value.field? "message").bind Value.text?⟩

def group? (value : Value) : Option DuplicateGroup := do
  let shared ← (value.field? "value").bind Value.text?
  return ⟨shared, ← (value.field? "tokens").bind texts?⟩

def skipped? (value : Value) : Option SkippedNode := do
  let path ← (value.field? "path").bind Value.text?
  return ⟨path, ← (value.field? "reason").bind Value.text?⟩

def ofValue? (value : Value) : Option Transcript := do
  return {
    sources := ← (value.field? "sources").bind texts?
    results := ← (value.field? "results").bind (Value.entriesOf? resolution?)
    cycles := ← (value.field? "cycles").bind (Value.listOf? cycle?)
    duplicates := ← (value.field? "duplicates").bind (Value.listOf? group?)
    skipped := ← (value.field? "diagnostics").bind (Value.listOf? skipped?)
    dangling := ← (value.field? "dangling").bind (Value.entriesOf? texts?)
    unknownTypes := ← (value.field? "unknown_types").bind (Value.entriesOf? Value.integer?)
    generatedAt := ← (value.field? "generated_at").bind Value.text?
    version := ← (value.field? "tool_version").bind Value.text?
    statusCounts := ← (value.field? "status_counts").bind (Value.entriesOf? Value.integer?) }

theorem texts?_texts (list : List String) : texts? (Report.texts list) = some list :=
  Value.listOf?_map Value.text?_str list

theorem resolution?_resolutionValue (outcome : Resolution) :
    resolution? (Report.resolutionValue outcome) = some outcome := by
  have path : (Report.resolutionValue outcome).field? "path" = some (.str outcome.path) := rfl
  have status : (Report.resolutionValue outcome).field? "status" =
      some (.str outcome.status.name) := rfl
  have value : (Report.resolutionValue outcome).field? "value" = some outcome.value := rfl
  simp [resolution?, path, status, value]

theorem cycle?_cycleValue (warning : CycleWarning) :
    cycle? (Report.cycleValue warning) = some warning := by
  have chain : (Report.cycleValue warning).field? "chain" =
      some (Report.texts warning.chain) := rfl
  have message : (Report.cycleValue warning).field? "message" = some (.str warning.message) := rfl
  simp [cycle?, chain, message, texts?_texts]

theorem group?_groupValue (group : DuplicateGroup) :
    group? (Report.groupValue group) = some group := by
  have value : (Report.groupValue group).field? "value" = some (.str group.value) := rfl
  have tokens : (Report.groupValue group).field? "tokens" = some (Report.texts group.tokens) := rfl
  simp [group?, value, tokens, texts?_texts]

theorem skipped?_skippedValue (node : SkippedNode) :
    skipped? (Report.skippedValue node) = some node := rfl

end Transcript

namespace Report

/-- What the report says, with all results or only with those that are no success. What it counts
is all of them in either case. -/
def transcript (report : Report) (includeResolved : Bool) : Transcript where
  sources := report.sources
  results := report.results.filter fun entry => includeResolved || entry.2.status ≠ .resolved
  cycles := report.cycles
  duplicates := report.duplicates
  skipped := report.skipped
  dangling := report.dangling
  unknownTypes := report.unknownTypes
  generatedAt := report.generatedAt.isoText
  version := report.version
  statusCounts := Status.all.map fun status =>
    (status.name, (report.results.countP (·.2.status = status) : Int))

theorem shownResults_eq (report : Report) (includeResolved : Bool) :
    report.shownResults includeResolved = (report.transcript includeResolved).results := by
  simp only [shownResults, transcript, Resolution.isResolved, decide_not, ne_eq]

theorem statusCounts_eq (report : Report) (includeResolved : Bool) :
    (report.statusCounts.map fun (name, count) => (name, (count : Int))) =
      (report.transcript includeResolved).statusCounts := by
  simp only [statusCounts, transcript, countOf, outcomes, Entries.items, List.countP_map,
    List.map_map]
  rfl

theorem ofValue?_toValue (report : Report) (includeResolved : Bool) :
    Transcript.ofValue? (report.toValue includeResolved) =
      some (report.transcript includeResolved) := by
  have counted := Value.entriesOf?_map Value.integer?_int
    (report.statusCounts.map fun (name, count) => (name, (count : Int)))
  rw [List.map_map, statusCounts_eq report includeResolved] at counted
  have sources : ((report.toValue includeResolved).field? "sources").bind Transcript.texts? =
      some report.sources := Transcript.texts?_texts _
  have results : ((report.toValue includeResolved).field? "results").bind
      (Value.entriesOf? Transcript.resolution?) =
        some (report.transcript includeResolved).results :=
    shownResults_eq report includeResolved ▸
      Value.entriesOf?_map Transcript.resolution?_resolutionValue _
  have cycles : ((report.toValue includeResolved).field? "cycles").bind
      (Value.listOf? Transcript.cycle?) = some report.cycles :=
    Value.listOf?_map Transcript.cycle?_cycleValue _
  have duplicates : ((report.toValue includeResolved).field? "duplicates").bind
      (Value.listOf? Transcript.group?) = some report.duplicates :=
    Value.listOf?_map Transcript.group?_groupValue _
  have skipped : ((report.toValue includeResolved).field? "diagnostics").bind
      (Value.listOf? Transcript.skipped?) = some report.skipped :=
    Value.listOf?_map Transcript.skipped?_skippedValue _
  have dangling : ((report.toValue includeResolved).field? "dangling").bind
      (Value.entriesOf? Transcript.texts?) = some report.dangling :=
    Value.entriesOf?_map Transcript.texts?_texts _
  have unknownTypes : ((report.toValue includeResolved).field? "unknown_types").bind
      (Value.entriesOf? Value.integer?) = some report.unknownTypes :=
    Value.entriesOf?_map Value.integer?_int _
  have statusCounts : ((report.toValue includeResolved).field? "status_counts").bind
      (Value.entriesOf? Value.integer?) = some (report.transcript includeResolved).statusCounts :=
    counted
  rw [Transcript.ofValue?, sources, results, cycles, duplicates, skipped, dangling, unknownTypes,
    statusCounts]
  rfl

/-- No key comes twice, in the report or in a value that it tells. -/
structure IsWellKeyed (report : Report) : Prop where
  results : report.results.keys.Nodup
  values : ∀ entry ∈ report.results, entry.2.value.isWellKeyed = true
  dangling : report.dangling.keys.Nodup
  unknownTypes : report.unknownTypes.keys.Nodup

private theorem nodup_keys_foldl_count (pairs : List (String × Nat)) (tally : Entries Nat)
    (distinct : tally.keys.Nodup) :
    (pairs.foldl (fun tally (name, amount) => Entries.count name amount tally)
      tally).keys.Nodup := by
  induction pairs generalizing tally with
  | nil => exact distinct
  | cons pair rest ih => exact ih _ (Entries.nodup_keys_put distinct ..)

/-- What a run reports is well-keyed. -/
theorem isWellKeyed_reportOf (settings : Settings) (groups : List DuplicateGroup)
    (now : Timestamp) {trees : List Value} (h : ∀ tree ∈ trees, tree.isWellKeyed = true)
    (sources : List String) :
    (Session.reportOf settings (Graph.build settings trees) groups now trees
      sources).IsWellKeyed where
  results := by
    rw [Session.reportOf, Graph.keys_resolutions]
    exact (Graph.build settings trees).distinct
  values := by
    intro entry member
    obtain ⟨path, -, rfl⟩ := List.mem_map.mp member
    exact isWellKeyed_resolution h [] path none
  dangling := (Graph.build settings trees).nodup_keys_dangling
  unknownTypes := by
    have tallied := nodup_keys_foldl_count (trees.flatMap (Tree.unknownTypes settings)) []
      List.nodup_nil
    rw [Session.reportOf, Session.unknownTypes, Entries.keys, List.map_map]
    exact tallied

section

open Json

theorem isLegible_str (s : String) : IsLegible none (.str s) where
  keyed := rfl
  floatless := List.forall_mem_singleton.mpr rfl
  small := List.forall_mem_singleton.mpr rfl

theorem isLegible_int (n : Int) : IsLegible none (.int n) where
  keyed := rfl
  floatless := List.forall_mem_singleton.mpr rfl
  small := List.forall_mem_singleton.mpr rfl

theorem isLegible_texts (list : List String) : IsLegible none (texts list) :=
  isLegible_list_iff.mpr (List.forall_mem_map.mpr fun s _ => isLegible_str s)

theorem isLegible_entries {α : Type} {write : α → Value} {entries : Entries α}
    (distinct : entries.keys.Nodup) (each : ∀ entry ∈ entries, IsLegible none (write entry.2)) :
    IsLegible none (.object (entries.map fun entry => (entry.1, write entry.2))) := by
  have keys : Entries.keys (entries.map fun entry => (entry.1, write entry.2)) = entries.keys := by
    rw [Entries.keys, List.map_map]
    rfl
  exact isLegible_object_iff.mpr ⟨keys ▸ distinct, List.forall_mem_map.mpr each⟩

private theorem isTooLarge_none (v : Value) : isTooLarge none v = false := by
  cases v <;> rfl

theorem isLegible_resolutionValue {outcome : Resolution} (keyed : outcome.value.isWellKeyed = true)
    (floatless : ∀ scalar ∈ outcome.value.scalars, scalar.isFloat = false) :
    IsLegible none (resolutionValue outcome) := by
  have value : IsLegible none outcome.value :=
    ⟨keyed, floatless, fun scalar _ => isTooLarge_none scalar⟩
  refine isLegible_object_iff.mpr ⟨by simp [Entries.keys], ?_⟩
  simp only [List.forall_mem_cons]
  exact ⟨isLegible_str _, isLegible_str _, value, List.forall_mem_nil _⟩

theorem isLegible_cycleValue (warning : CycleWarning) : IsLegible none (cycleValue warning) := by
  refine isLegible_object_iff.mpr ⟨by simp [Entries.keys], ?_⟩
  simp only [List.forall_mem_cons]
  exact ⟨isLegible_texts _, isLegible_str _, List.forall_mem_nil _⟩

private theorem isLegible_groupValue (group : DuplicateGroup) :
    IsLegible none (groupValue group) := by
  refine isLegible_object_iff.mpr ⟨by simp [Entries.keys], ?_⟩
  simp only [List.forall_mem_cons]
  exact ⟨isLegible_str _, isLegible_texts _, List.forall_mem_nil _⟩

private theorem isLegible_skippedValue (node : SkippedNode) :
    IsLegible none (skippedValue node) := by
  refine isLegible_object_iff.mpr ⟨by simp [Entries.keys], ?_⟩
  simp only [List.forall_mem_cons]
  exact ⟨isLegible_str _, isLegible_str _, List.forall_mem_nil _⟩

theorem isLegible_toValue {report : Report} (keyed : report.IsWellKeyed)
    (floatless : ∀ entry ∈ report.results,
      ∀ scalar ∈ entry.2.value.scalars, scalar.isFloat = false) (includeResolved : Bool) :
    IsLegible none (report.toValue includeResolved) := by
  have results : IsLegible none (.object ((report.shownResults includeResolved).map fun entry =>
      (entry.1, resolutionValue entry.2))) := by
    refine isLegible_entries (keyed.results.sublist (List.filter_sublist.map _)) ?_
    intro entry member
    have stored := List.mem_of_mem_filter member
    exact isLegible_resolutionValue (keyed.values entry stored) (floatless entry stored)
  have cycles : IsLegible none (.list (report.cycles.map cycleValue)) :=
    isLegible_list_iff.mpr (List.forall_mem_map.mpr fun warning _ => isLegible_cycleValue warning)
  have duplicates : IsLegible none (.list (report.duplicates.map groupValue)) :=
    isLegible_list_iff.mpr (List.forall_mem_map.mpr fun group _ => isLegible_groupValue group)
  have skipped : IsLegible none (.list (report.skipped.map skippedValue)) :=
    isLegible_list_iff.mpr (List.forall_mem_map.mpr fun node _ => isLegible_skippedValue node)
  have dangling := isLegible_entries keyed.dangling fun entry _ => isLegible_texts entry.2
  have unknownTypes := isLegible_entries keyed.unknownTypes fun entry _ => isLegible_int entry.2
  have names : report.statusCounts.keys.Nodup := by
    rw [statusCounts, Entries.keys, List.map_map]
    exact (by decide : (Status.all.map Status.name).Nodup)
  have counts := @isLegible_entries Nat (fun count => .int count) report.statusCounts names
    fun entry _ => isLegible_int entry.2
  refine isLegible_object_iff.mpr ⟨by simp [Entries.keys], ?_⟩
  simp only [List.forall_mem_cons]
  exact ⟨isLegible_texts _, results, cycles, duplicates, skipped, dangling, unknownTypes,
    isLegible_str _, isLegible_str _, counts, List.forall_mem_nil _⟩

end

/-- A text says what the report does: it is read as a value, also from a file, that tells the
report. -/
structure Tells (report : Report) (includeResolved : Bool) (text : String) : Prop where
  parsed : Json.parse text.toList = .ok (report.toValue includeResolved)
  loaded : ∀ files path, files.read (Files.normal path) = .ok text.toUTF8 →
    TokenFile.load files path = .ok (report.toValue includeResolved)
  told : Transcript.ofValue? (report.toValue includeResolved) =
    some (report.transcript includeResolved)

theorem tells_of_jsonText {report : Report} (keyed : report.IsWellKeyed)
    (floatless : ∀ entry ∈ report.results,
      ∀ scalar ∈ entry.2.value.scalars, scalar.isFloat = false)
    {room : Nat} {indent : Int} {includeResolved : Bool} {text : String}
    (written : report.jsonText room (Json.columns indent) includeResolved = .ok text) :
    report.Tells includeResolved text := by
  obtain ⟨writes, rfl⟩ := Json.print_eq_ok_iff.mp written
  obtain ⟨wellKeyed, noFloats, -⟩ := isLegible_toValue keyed floatless includeResolved
  have legible : Json.IsLegible (some Numeral.bound) (report.toValue includeResolved) :=
    ⟨wellKeyed, noFloats, writes.integers⟩
  exact ⟨Json.parseWithin_text (Json.isBlank_columns indent) legible,
    fun _ _ bytes => TokenFile.load_text legible indent bytes,
    ofValue?_toValue report includeResolved⟩

/-- A report has a text if it can be written, and the text says what the report does. -/
theorem readBack {report : Report} (keyed : report.IsWellKeyed)
    (floatless : ∀ entry ∈ report.results,
      ∀ scalar ∈ entry.2.value.scalars, scalar.isFloat = false)
    (room : Nat) (indent : Int) (includeResolved : Bool) :
    let written := report.jsonText room (Json.columns indent) includeResolved
    ((∃ text, written = .ok text) ↔ (report.toValue includeResolved).IsWritable room) ∧
      ∀ text, written = .ok text → report.Tells includeResolved text :=
  ⟨Json.exists_print_iff, fun _ => tells_of_jsonText keyed floatless⟩

/-- What a run reports has no key twice, so that its text says all of it. -/
theorem tells_of_run (session : Session) (names : List String)
    (types : session.settings.duplicateTypes = .ofTexts names) {trees : List Value}
    (h : ∀ tree ∈ trees, tree.isWellKeyed = true) {room room' : Nat} {now : Timestamp}
    {sources : List String} {scope : Option Value} {report : Report}
    (ran : ((Session.run room now trees sources scope).run session).result = .ok report)
    (floatless : ∀ entry ∈ report.results,
      ∀ scalar ∈ entry.2.value.scalars, scalar.isFloat = false)
    {indent : Int} {includeResolved : Bool} {text : String}
    (written : report.jsonText room' (Json.columns indent) includeResolved = .ok text) :
    report.Tells includeResolved text := by
  have given := types ▸ Datum.members?_ofTexts names
  obtain ⟨after, -, ends⟩ := Session.ends_run given room now h sources scope
  obtain ⟨groups, -, rfl⟩ := Session.reportIn_eq_ok_iff.mp (ends.result.symm.trans ran)
  exact tells_of_jsonText (isWellKeyed_reportOf _ groups now h sources) floatless written

/-- Two results, the second with much in it that has to be escaped or set apart. -/
def notes : Report where
  sources := ["a \"b\".json"]
  results := [
    ("ink", ⟨"ink", .resolved, .str "#36f"⟩),
    ("a\tb", ⟨"a\tb", .missing, .list [
      .null, .bool true, .int (-123456789012345678901234567890), .str "\\ \x01 → \x7bgone\x7d\r",
      .list [], .object [("", .object []), ("é", .int 0)]]⟩)]
  duplicates := [⟨"#36f", ["ink", "tint"]⟩]
  skipped := [⟨"list", "arrays are not token groups"⟩]
  dangling := [("gone", ["a\tb"])]
  unknownTypes := [("", 2)]
  generatedAt := ⟨2026, 1, 1, 0, 0, 0, 0⟩

theorem readBack_notes :
    notes.IsWellKeyed ∧ (∀ entry ∈ notes.results,
      ∀ scalar ∈ entry.2.value.scalars, scalar.isFloat = false) ∧
      ∃ text, notes.jsonText 6 (Json.columns (-3)) false = .ok text ∧
        let files : Files := ⟨[(["report.json"], .file text.toUTF8)]⟩
        ∃ value transcript, Json.parse text.toList = .ok value ∧
          TokenFile.load files "report.json" = .ok value ∧
          Transcript.ofValue? value = some transcript ∧
          transcript.results.keys = ["a\tb"] ∧
          transcript.statusCounts = [("resolved", 1), ("cyclic", 0), ("missing", 1)] := by
  have keyed : notes.IsWellKeyed := ⟨by decide, by decide, by decide, by decide⟩
  have floatless : ∀ entry ∈ notes.results,
      ∀ scalar ∈ entry.2.value.scalars, scalar.isFloat = false := by decide
  obtain ⟨given, tells⟩ := readBack keyed floatless 6 (-3) false
  obtain ⟨text, written⟩ := given.mpr (by decide +kernel)
  obtain ⟨parsed, loaded, told⟩ := tells text written
  exact ⟨keyed, floatless, text, written, notes.toValue false, notes.transcript false, parsed,
    loaded _ "report.json" rfl, told, by decide, by decide⟩

/-- The notes with one result. -/
def noteOf (value : Value) : Report :=
  { notes with results := [("ink", ⟨"ink", .resolved, value⟩)] }

private theorem not_exists_jsonText_noteOf {room : Nat} {value : Value}
    (unwritable : ¬value.IsWritable room) :
    ¬∃ text, (noteOf value).jsonText room (Json.columns 2) true = .ok text := by
  rintro ⟨text, written⟩
  have writes := isWritable_of_toValue (Json.print_eq_ok_iff.mp written).1 List.mem_cons_self
  exact unwritable writes

/-- No text tells of a value that has too many digits, or is too deep. -/
theorem no_jsonText_unwritable :
    (¬∃ text, (noteOf Value.longInteger).jsonText 900 (Json.columns 2) true = .ok text) ∧
      ¬∃ text, (noteOf (Value.tower 900)).jsonText 900 (Json.columns 2) true = .ok text :=
  ⟨not_exists_jsonText_noteOf (Value.not_isWritable_longInteger 900),
    not_exists_jsonText_noteOf (Value.not_isWritable_tower (Nat.le_refl 900))⟩

end Report

end DesignTokens
