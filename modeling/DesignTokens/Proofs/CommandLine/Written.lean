import DesignTokens.Proofs.CommandLine.Run
import DesignTokens.Proofs.Report.Rows
import DesignTokens.Proofs.Report.Writable

/-! What the commands write: it can be written, or they end with a fault. -/
namespace DesignTokens.CommandLine

variable {around : Surroundings} {format : Format} {onlyUnresolved : Bool}

/-- Whether a resolution can be shown on its own. -/
def CanBeShown (around : Surroundings) (format : Format) (outcome : Resolution) : Prop :=
  if format = .json then
    outcome.value.nesting ≤ around.copyRoom ∧
      (Report.resolutionValue outcome).IsWritable around.room
  else outcome.value.IsWritable around.room

private theorem comes_copied {outcome : Resolution}
    (copies : outcome.value.nesting ≤ around.copyRoom) :
    Comes around (copied outcome) (.ok { outcome with value := outcome.value.finite }) := by
  rw [copied]
  refine comes_read.bind ?_
  rw [if_neg (Nat.not_lt.mpr copies)]
  exact comes_pure _

private theorem faults_copied {outcome : Resolution}
    (deep : around.copyRoom < outcome.value.nesting) : Faults around (copied outcome) := by
  rw [copied]
  refine comes_read.bind_faults ?_
  rw [if_pos deep]
  exact faults_throw rfl

theorem comes_showResolution {outcome : Resolution} (shown : CanBeShown around format outcome) :
    Comes around (showResolution format outcome) (.ok ()) := by
  rw [showResolution]
  refine comes_read.bind ?_
  rw [CanBeShown] at shown
  split
  · next json =>
    rw [if_pos json] at shown
    obtain ⟨copies, writes⟩ := shown
    obtain ⟨text, prints⟩ := Json.exists_print_iff.mpr
      (Report.isWritable_resolutionValue_finite_iff.mpr writes)
    exact (comes_copied copies).bind ((comes_orUnwritable prints).bind (comes_echo text))
  · next other =>
    rw [if_neg other] at shown
    refine (comes_orUnwritable (Value.key_of_isWritable shown)).bind ?_
    exact comes_display (List.forall_mem_singleton.mpr (Report.isSome_shown?_resolution outcome _))

theorem faults_showResolution {outcome : Resolution}
    (unshown : ¬CanBeShown around format outcome) :
    Faults around (showResolution format outcome) := by
  rw [showResolution]
  refine comes_read.bind_faults ?_
  rw [CanBeShown] at unshown
  split
  · next json =>
    rw [if_pos json] at unshown
    by_cases deep : around.copyRoom < outcome.value.nesting
    · exact (faults_copied deep).bind _
    · have copies := Nat.not_lt.mp deep
      refine (comes_copied copies).bind_faults ?_
      cases prints : Json.print around.room (Json.columns 2)
          (Report.resolutionValue { outcome with value := outcome.value.finite }) with
      | error fault => exact (faults_orUnwritable rfl).bind _
      | ok text =>
        have writes := (Json.print_eq_ok_iff.mp prints).1
        exact absurd ⟨copies, Report.isWritable_resolutionValue_finite_iff.mp writes⟩ unshown
  · next other =>
    rw [if_neg other] at unshown
    cases keyed : outcome.value.key around.room with
    | error fault => exact (faults_orUnwritable keyed).bind _
    | ok key => exact absurd (Value.key_eq_ok_iff.mp keyed).1 unshown

/-- Whether a report can be written as it is asked for. -/
def CanBeWritten (around : Surroundings) (format : Format) (onlyUnresolved : Bool)
    (report : Report) : Prop :=
  match format with
  | .table => ∃ text, report.screenText? around.room onlyUnresolved = .ok (some text)
  | .json => (report.toValue !onlyUnresolved).IsWritable around.room
  | .csv => ∀ outcome ∈ report.outcomesIn onlyUnresolved, outcome.value.IsWritable around.room

theorem comes_reportText {report : Report}
    (written : CanBeWritten around format onlyUnresolved report) :
    ∃ text, Comes around (reportText format onlyUnresolved report) (.ok text) := by
  cases format with
  | table =>
    obtain ⟨text, found⟩ := written
    exact ⟨text, comes_read.bind ((comes_orUnwritable found).bind (comes_pure text))⟩
  | json =>
    obtain ⟨text, found⟩ := Json.exists_print_iff.mpr written
    exact ⟨text, comes_read.bind (comes_orUnwritable found)⟩
  | csv =>
    have found : report.csvText around.room ',' true onlyUnresolved = .ok _ :=
      Report.csvText_eq_ok_iff.mpr ⟨written, rfl⟩
    exact ⟨_, comes_read.bind (comes_orUnwritable found)⟩

theorem faults_reportText {report : Report}
    (broken : ¬CanBeWritten around format onlyUnresolved report) :
    Faults around (reportText format onlyUnresolved report) := by
  rw [reportText]
  refine comes_read.bind_faults ?_
  cases format with
  | table =>
    dsimp only
    cases found : report.screenText? around.room onlyUnresolved with
    | error fault => exact (faults_orUnwritable rfl).bind _
    | ok shown =>
      refine (comes_orUnwritable rfl).bind_faults ?_
      cases shown with
      | none => exact faults_throw rfl
      | some text => exact absurd ⟨text, found⟩ broken
  | json =>
    dsimp only
    cases found : report.jsonText around.room (Json.columns 2) !onlyUnresolved with
    | error fault => exact faults_orUnwritable rfl
    | ok text => exact absurd (Json.exists_print_iff.mp ⟨text, found⟩) broken
  | csv =>
    dsimp only
    cases found : report.csvText around.room ',' true onlyUnresolved with
    | error fault => exact faults_orUnwritable rfl
    | ok text => exact absurd (Report.csvText_eq_ok_iff.mp found).1 broken

theorem shows_acyclic (count : Nat) :
    Screen.Shows (.line (Status.painted "green" s!"No circular references in {count} tokens")) := by
  have plain : Text.Markup.IsPlain (s!"No circular references in {count} tokens").toList := by
    have before : Text.Markup.IsPlain "No circular references in ".toList := by decide
    have after : Text.Markup.IsPlain " tokens".toList := by decide
    simpa [toString] using (before.append (Text.Markup.isPlain_digits count)).append after
  have green : Text.Markup.IsTag ('[' :: ("green".toList ++ [']'])) := by decide
  have tags := Status.tagsOf_painted_plain green plain []
  rw [List.append_nil] at tags
  rw [Screen.Shows, Text.Markup.isSome_shown?, tags]
  decide

theorem shows_cycles (chains : List (List String)) :
    ∀ block ∈ .line (Status.painted "bold red" "Circular references detected:") ::
      chains.map fun chain =>
        .line ("  ".toList ++ Report.escaped (CycleWarning.ofChain chain).message),
      Screen.Shows block := by
  have heading : Screen.Shows
      (.line (Status.painted "bold red" "Circular references detected:")) := by
    rw [Screen.Shows, Text.Markup.isSome_shown?]
    decide
  refine List.forall_mem_cons.mpr ⟨heading, List.forall_mem_map.mpr fun chain _ => ?_⟩
  refine Report.shows_silent ?_
  rw [Report.tagsOf_indented _ (by decide)]
  exact Text.Markup.tagsOf_escape _

end DesignTokens.CommandLine
