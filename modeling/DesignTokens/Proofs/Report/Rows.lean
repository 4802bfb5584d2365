import DesignTokens.Proofs.Csv.Reader
import DesignTokens.Proofs.Fold
import DesignTokens.Proofs.Value.Key
import DesignTokens.Report.Csv
import Mathlib.Data.List.Forall2

/-! What a report says as rows of fields. Its text, which there is if the values that it lists can
be written, is read back to a section for the results and one for each kind of finding that there
is, which the empty rows between them tell apart. -/
namespace DesignTokens.Report

/-- Rows under a title and a header. -/
structure Section where
  title : String
  header : List String
  entries : List (List String)

def Section.rows (part : Section) : List (List String) :=
  [part.title] :: part.header :: part.entries

def resultSection (entries : List (List String)) : Section :=
  ⟨"# Resolution Results", ["Path", "Status", "Value"], entries⟩

def findingSections (report : Report) : List Section := [
  ⟨"# Reference Cycles", ["Chain"],
    report.cycles.map fun warning => [String.intercalate " > " warning.chain]⟩,
  ⟨"# Missing References", ["Target", "Referenced By"],
    report.dangling.map fun entry => [entry.1, String.intercalate "; " entry.2]⟩,
  ⟨"# Duplicate Values", ["Value", "Count", "Tokens"],
    report.duplicates.map fun group =>
      [group.value, toString group.tokens.length, String.intercalate "; " group.tokens]⟩,
  ⟨"# Skipped Nodes", ["Path", "Reason"], report.skipped.map fun node => [node.path, node.reason]⟩]

def sections (report : Report) (entries : List (List String)) (includeFindings : Bool) :
    List Section :=
  resultSection entries ::
    if includeFindings then report.findingSections.filter (·.entries ≠ []) else []

private theorem csvSection_eq (part : Section) :
    csvSection part.title part.header part.entries =
      ([part].filter (·.entries ≠ [])).flatMap fun part => [] :: part.rows := by
  by_cases empty : part.entries = [] <;> simp [csvSection, Section.rows, empty]

theorem findingRows_eq (report : Report) :
    report.findingRows =
      (report.findingSections.filter (·.entries ≠ [])).flatMap fun part => [] :: part.rows := by
  have split (first second third fourth : Section) :
      ([first, second, third, fourth].filter (·.entries ≠ [])).flatMap
          (fun part => [] :: part.rows) =
        csvSection first.title first.header first.entries ++
        csvSection second.title second.header second.entries ++
        csvSection third.title third.header third.entries ++
        csvSection fourth.title fourth.header fourth.entries := by
    simp only [csvSection_eq, ← List.flatMap_append, ← List.filter_append, List.cons_append,
      List.nil_append]
  rw [findingSections, split]
  rfl

/-- No row of a section is empty. -/
theorem notMem_rows {report : Report} {entries : List (List String)} (filled : [] ∉ entries)
    {includeFindings : Bool} {part : Section}
    (member : part ∈ report.sections entries includeFindings) : [] ∉ part.rows := by
  have found : part = resultSection entries ∨ part ∈ report.findingSections := by
    cases includeFindings <;> simp_all [sections]
    tauto
  rcases found with rfl | found
  · simp [Section.rows, resultSection, filled]
  · simp only [findingSections, List.mem_cons, List.not_mem_nil, or_false] at found
    rcases found with rfl | rfl | rfl | rfl <;> simp [Section.rows]

theorem intercalate_rows (first : Section) (others : List Section) :
    List.intercalate [[]] ((first :: others).map Section.rows) =
      first.rows ++ others.flatMap fun part => [] :: part.rows := by
  induction others generalizing first with
  | nil => simp
  | cons next rest ih =>
    rw [List.map_cons, List.map_cons, List.intercalate_cons_cons, ← List.map_cons, ih]
    simp

/-- The results that are listed, all of them or those that are no success. -/
def outcomesIn (report : Report) (onlyUnresolved : Bool) : List Resolution :=
  report.results.items.filter fun outcome => !onlyUnresolved || outcome.status ≠ .resolved

theorem listed_eq (report : Report) (onlyUnresolved : Bool) :
    report.listed onlyUnresolved = report.outcomesIn onlyUnresolved := by
  cases onlyUnresolved <;> simp [listed, outcomesIn, unresolved, outcomes, Resolution.isResolved]

/-- The fields of a row for each result that is listed. -/
def entriesIn (report : Report) (onlyUnresolved : Bool) : List (List String) :=
  (report.outcomesIn onlyUnresolved).map fun outcome =>
    [outcome.path, outcome.status.name, outcome.value.keyText]

theorem csvText_eq_ok_iff {report : Report} {room : Nat} {delimiter : Char}
    {includeFindings onlyUnresolved : Bool} {text : String} :
    report.csvText room delimiter includeFindings onlyUnresolved = .ok text ↔
      (∀ outcome ∈ report.outcomesIn onlyUnresolved, outcome.value.IsWritable room) ∧
        Csv.print delimiter ((resultSection (report.entriesIn onlyUnresolved)).rows ++
          if includeFindings then report.findingRows else []) = text := by
  have entries (results : List (List String)) :
      (report.outcomesIn onlyUnresolved).mapM (outcomeFields room) = .ok results ↔
        (∀ outcome ∈ report.outcomesIn onlyUnresolved, outcome.value.IsWritable room) ∧
          report.entriesIn onlyUnresolved = results := by
    refine mapM_eq_ok_iff fun outcome fields => ?_
    exact Value.map_key_eq_ok_iff
  rw [csvText, csvRows, resultRows, listed_eq]
  cases found : (report.outcomesIn onlyUnresolved).mapM (outcomeFields room) with
  | error fault =>
    refine iff_of_false nofun fun ⟨writes, _⟩ => ?_
    cases found.symm.trans ((entries _).mpr ⟨writes, rfl⟩)
  | ok results =>
    obtain ⟨writes, rfl⟩ := (entries results).mp found
    rw [and_iff_right writes]
    exact ⟨Except.ok.inj, congrArg Except.ok⟩

/-- There is a text of a report if the values that it lists can be written. It is read back to the
rows of the sections, an empty row before each but the first; taken apart at the empty rows they are
the sections. -/
theorem read_csvText (report : Report) (room : Nat) {delimiter : Char}
    (delimits : Csv.IsDelimiter delimiter) (includeFindings onlyUnresolved : Bool) :
    let listed := report.results.items.filter fun outcome =>
      !onlyUnresolved || outcome.status ≠ .resolved
    let findings := if includeFindings then report.findingSections.filter (·.entries ≠ []) else []
    let written := report.csvText room delimiter includeFindings onlyUnresolved
    ((∃ text, written = .ok text) ↔ ∀ outcome ∈ listed, outcome.value.IsWritable room) ∧
      ∀ text, written = .ok text →
        ∃ entries : List (List String),
          List.Forall₂ (fun outcome entry => ∃ key, outcome.value.key room = .ok key ∧
            entry = [outcome.path, outcome.status.name, key]) listed entries ∧
          let rows := ["# Resolution Results"] :: ["Path", "Status", "Value"] :: entries ++
            findings.flatMap fun part => [] :: [part.title] :: part.header :: part.entries
          Csv.read delimiter text = some rows ∧
            rows.splitOn [] = (report.sections entries includeFindings).map Section.rows := by
  intro listed findings written
  refine ⟨?_, fun text found => ?_⟩
  · simp only [written, csvText_eq_ok_iff, exists_and_left, exists_eq', and_true]
    exact Iff.rfl
  obtain ⟨writes, rfl⟩ := csvText_eq_ok_iff.mp found
  refine ⟨report.entriesIn onlyUnresolved, ?_, ?_⟩
  · refine List.forall₂_map_right_iff.mpr (List.forall₂_same.mpr fun outcome member => ?_)
    exact ⟨_, Value.key_of_isWritable (writes outcome member), rfl⟩
  intro rows
  have same : (resultSection (report.entriesIn onlyUnresolved)).rows ++
      (if includeFindings then report.findingRows else []) = rows := by
    rw [findingRows_eq]
    cases includeFindings <;> rfl
  have joined : rows = List.intercalate [[]]
      ((report.sections (report.entriesIn onlyUnresolved) includeFindings).map Section.rows) := by
    rw [sections, intercalate_rows]
    rfl
  have filled : [] ∉ report.entriesIn onlyUnresolved := by
    simp [entriesIn]
  constructor
  · rw [same, Csv.read_print delimits]
  · rw [joined]
    apply List.splitOn_intercalate
    · intro part member
      obtain ⟨part, among, rfl⟩ := List.mem_map.mp member
      exact notMem_rows filled among
    · simp [sections]

/-- A single field that is empty, and fields with line breaks, quotes and delimiters. -/
def scraps : Report where
  results := [
    ("ink", ⟨"ink", .resolved, .str "#36f"⟩),
    ("a;b", ⟨"a;b", .missing, .list [.str "\x7bgone;\x7d", .str "\r\n"]⟩),
    ("", ⟨"", .cyclic, .str "\"\n"⟩)]
  cycles := [⟨[""], "Circular reference: "⟩]
  dangling := [("gone;", ["a;b", "c"])]
  generatedAt := ⟨2026, 1, 1, 0, 0, 0, 0⟩

theorem read_csvText_scraps :
    Csv.IsDelimiter ';' ∧ ∃ text, scraps.csvText 1 ';' true true = .ok text ∧
      Csv.read ';' text = some [
        ["# Resolution Results"], ["Path", "Status", "Value"],
        ["a;b", "missing", "[\"\x7bgone;\x7d\", \"\\r\\n\"]"], ["", "cyclic", "\"\n"], [],
        ["# Reference Cycles"], ["Chain"], [""], [],
        ["# Missing References"], ["Target", "Referenced By"], ["gone;", "a;b; c"]] := by
  have delimits : Csv.IsDelimiter ';' := ⟨by decide, by decide, by decide⟩
  obtain ⟨given, told⟩ := read_csvText scraps 1 delimits true true
  obtain ⟨text, written⟩ := given.mpr (by decide +kernel)
  obtain ⟨entries, each, read, -⟩ := told text written
  rcases each with _ | ⟨⟨_, gone, rfl⟩, _ | ⟨⟨_, quote, rfl⟩, _ | _⟩⟩
  obtain ⟨-, rfl⟩ := Value.key_eq_ok_iff.mp gone
  obtain ⟨-, rfl⟩ := Value.key_eq_ok_iff.mp quote
  exact ⟨delimits, text, written, read⟩

/-- A report with one result. -/
def single (value : Value) : Report where
  results := [("a", ⟨"a", .resolved, value⟩)]
  generatedAt := ⟨2026, 1, 1, 0, 0, 0, 0⟩

private theorem not_exists_csvText_single {room : Nat} {value : Value}
    (unwritable : ¬value.IsWritable room) :
    ¬∃ text, (single value).csvText room ',' true false = .ok text := by
  rintro ⟨text, written⟩
  exact unwritable ((csvText_eq_ok_iff.mp written).1 _ List.mem_cons_self)

/-- There are no rows for a value that has too many digits, or is too deep. -/
theorem no_csvText_single :
    (¬∃ text, (single Value.longInteger).csvText 900 ',' true false = .ok text) ∧
      ¬∃ text, (single (Value.tower 900)).csvText 900 ',' true false = .ok text :=
  ⟨not_exists_csvText_single (Value.not_isWritable_longInteger 900),
    not_exists_csvText_single (Value.not_isWritable_tower (Nat.le_refl 900))⟩

end DesignTokens.Report
