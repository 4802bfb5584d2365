import DesignTokens.Proofs.CommandLine.Words
import DesignTokens.Proofs.CommandLine.Written
import DesignTokens.Proofs.Graph.Skipped
import DesignTokens.Proofs.Report.Coherent

/-! Commands as gates. -/
namespace DesignTokens

/-- Whether each escaped half of a surrogate pair stands beside the other half, the first of them
after a high half or not. -/
def Json.isPairedAfter (high : Bool) : List Char → Bool
  | '\\' :: 'u' :: a :: b :: c :: d :: rest =>
    match codeUnit? a b c d with
    | some unit =>
      if Text.isLowSurrogate unit then high && isPairedAfter false rest
      else !high && isPairedAfter (Text.isHighSurrogate unit) rest
    | none => !high && isPairedAfter false rest
  | '\\' :: _ :: rest => !high && isPairedAfter false rest
  | _ :: rest => !high && isPairedAfter false rest
  | [] => !high

namespace CommandLine

/-- The exit of a command whose gate is closed unless the condition holds. -/
def gate (opened : Bool) : Except Stop Unit := if opened then .ok () else .error (.exit 1)

theorem comes_gate (around : Surroundings) (opened : Bool) :
    Comes around (if !opened then exit 1 else pure ()) (gate opened) := by
  cases opened
  · exact comes_throw (.exit 1)
  · exact comes_pure ()

theorem Comes.explaining_gate {around : Surroundings} {run : Run Unit} {opened : Bool}
    (comes : Comes around run (gate opened)) :
    Comes around (CommandLine.explaining run) (gate opened) := by
  cases opened with
  | true => exact comes.explaining
  | false => exact comes.explaining_exit

/-- The settings can be loaded, their types to compare are texts, and every file holds a tree. No
file has half a surrogate pair, for which there is no character. -/
structure Surroundings.Supplies (around : Surroundings) (config : Option String)
    (files : List String) (settings : Settings) (trees : List Value) : Prop where
  settings_eq : ((Settings.load around.files around.environment config :
    Action Unit SettingsSourceError Settings).run ()).result = .ok settings
  types : ∃ names, settings.duplicateTypes = .ofTexts names
  trees_eq : files.mapM (TokenFile.load around.files) = .ok trees
  paired : ∀ path ∈ files, ∀ bytes, around.files.read (Files.normal path) = .ok bytes →
    (Text.decode? bytes).all (Json.isPairedAfter false) = true

namespace Surroundings.Supplies

variable {around : Surroundings} {config : Option String} {files : List String}
  {settings : Settings} {trees : List Value}

theorem isWellKeyed (supplies : around.Supplies config files settings trees) :
    ∀ tree ∈ trees, tree.isWellKeyed = true := by
  intro tree member
  obtain ⟨path, loads⟩ := (TokenFile.of_mapM_load supplies.trees_eq).2 tree member
  exact TokenFile.isWellKeyed_of_load loads

theorem comes_loadSettings (supplies : around.Supplies config files settings trees)
    (verbose : Bool) : Comes around (loadSettings verbose config) (.ok settings) := by
  have ends : (Settings.load around.files around.environment config :
      Action Unit SettingsSourceError Settings).Ends () (.ok settings) () :=
    Action.ends_of_result supplies.settings_eq
  exact comes_read.bind ((comes_perform ends verbose .settings).map Prod.fst)

theorem comes_buildSession (supplies : around.Supplies config files settings trees)
    (verbose : Bool) :
    ∃ session, session.Serves settings (Graph.build settings trees) ∧
      Comes around (buildSession verbose settings files)
        (.ok (Graph.build settings trees, session)) := by
  obtain ⟨session, serves, builds⟩ := Session.ends_build trees { settings }
  have loads := Session.ends_loadTrees around.files files { settings }
  rw [supplies.trees_eq] at loads
  exact ⟨session, serves, comes_read.bind (comes_perform (loads.bind builds) verbose .session)⟩

theorem comes_cycles (supplies : around.Supplies config files settings trees) (verbose : Bool) :
    Comes around (cycles verbose files config)
      (gate (decide ((Graph.build settings trees).cycles = []))) := by
  obtain ⟨session, -, builds⟩ := supplies.comes_buildSession verbose
  have loads : Comes around (loadGraph verbose files config) (.ok (Graph.build settings trees)) :=
    (supplies.comes_loadSettings verbose).bind (builds.map Prod.fst)
  rw [cycles]
  refine loads.explaining.bind ((comes_log verbose _).bind ?_)
  by_cases none : (Graph.build settings trees).cycles = []
  · rw [if_pos none, decide_eq_true none]
    exact comes_display (List.forall_mem_singleton.mpr (shows_acyclic _))
  · rw [if_neg none, decide_eq_false none]
    exact (comes_display (shows_cycles _)).bind (comes_throw (.exit 1))

section

variable {options : ResolveOptions}
  (supplies : around.Supplies options.config options.files settings trees) (verbose : Bool)
  {format : Format} {path : String} (known : (Graph.build settings trees).has path = true)

include supplies known

/-- What is shown of a path is what it comes to in the graph. -/
private theorem comes_resolvePath_of_shows {result : Except Stop Unit}
    (shows : Comes around (do
      showResolution format ((Graph.build settings trees).resolutionOf path)
      if options.strict && !((Graph.build settings trees).resolutionOf path).isResolved then
        exit 1) result) : Comes around (resolvePath verbose options format path) result := by
  obtain ⟨session, serves, builds⟩ := supplies.comes_buildSession verbose
  have agrees := agrees_resolutionOf_build settings supplies.isWellKeyed
  obtain ⟨after, -, resolves⟩ := Session.gives_withResolver .resolve SessionError.resolver
    (Resolver.gives_resolve agrees path) session serves
  rw [resolvePath]
  refine (supplies.comes_loadSettings verbose).bind (builds.bind ?_)
  dsimp only
  rw [known, if_neg (by decide)]
  exact (comes_perform resolves verbose .session).bind shows

theorem comes_resolvePath (strict : options.strict = true)
    (shown : CanBeShown around format ((Graph.build settings trees).resolutionOf path)) :
    Comes around (resolvePath verbose options format path)
      (gate ((Graph.build settings trees).resolutionOf path).isResolved) := by
  refine supplies.comes_resolvePath_of_shows verbose known ?_
  rw [strict]
  exact (comes_showResolution shown).bind (comes_gate around _)

theorem faults_resolvePath
    (unshown : ¬CanBeShown around format ((Graph.build settings trees).resolutionOf path)) :
    Faults around (resolvePath verbose options format path) := by
  obtain ⟨fault, silent, stops⟩ := faults_showResolution unshown
  exact ⟨fault, silent, supplies.comes_resolvePath_of_shows verbose known stops.bind_error⟩

end

theorem ends_runFiles (supplies : around.Supplies config files settings trees)
    {wanted : List Datum} (isSet : settings.duplicateTypes.members? = some wanted) :
    ∃ after, (Session.runFiles around.room around.now around.files files none).Ends { settings }
      (Session.reportIn around.room settings wanted around.now trees files none) after := by
  have loaded : Session.loaded around.files files none = .ok (trees, none) := by
    rw [Session.loaded, supplies.trees_eq]
    rfl
  obtain ⟨after, -, ends⟩ := @Session.ends_run { settings } wanted isSet around.room around.now
    trees supplies.isWellKeyed files none
  exact ⟨after, Session.ends_runFiles_of_loaded loaded ends⟩

section

variable {options : ResolveOptions}
  (supplies : around.Supplies options.config options.files settings trees) (verbose : Bool)
  {after : Session}

include supplies

theorem comes_makeReport {report : Report}
    (ends : (Session.runFiles around.room around.now around.files options.files none).Ends
      { settings } (.ok report) after) :
    Comes around (makeReport verbose options) (.ok report) := by
  rw [makeReport]
  refine (supplies.comes_loadSettings verbose).bind (comes_read.bind ?_)
  exact (comes_perform ends verbose .session).map Prod.fst

theorem faults_resolveAll_of_error (format : Format) {fault : Json.Unwritable}
    (ends : (Session.runFiles around.room around.now around.files options.files none).Ends
      { settings } (.error (.unwritable fault)) after) :
    Faults around (resolveAll verbose options format) := by
  have faults : Faults around (makeReport verbose options) := by
    rw [makeReport]
    refine (supplies.comes_loadSettings verbose).bind_faults (comes_read.bind_faults ?_)
    exact (faults_perform ends verbose rfl).bind _
  rw [resolveAll]
  exact faults.explaining.bind _

end

section

variable {options : ResolveOptions} {verbose : Bool} {format : Format} {report : Report}
  (makes : Comes around (makeReport verbose options) (.ok report))

include makes

theorem comes_resolveAll (strict : options.strict = true) (unsaved : options.save = none)
    (written : CanBeWritten around format options.onlyUnresolved report) :
    Comes around (resolveAll verbose options format) (gate report.isClean) := by
  obtain ⟨text, writes⟩ := comes_reportText written
  rw [resolveAll, strict, unsaved]
  refine makes.explaining.bind (writes.bind ((comes_echo _).bind ?_))
  exact comes_gate around report.isClean

theorem faults_resolveAll (broken : ¬CanBeWritten around format options.onlyUnresolved report) :
    Faults around (resolveAll verbose options format) := by
  rw [resolveAll]
  exact makes.explaining.bind_faults ((faults_reportText broken).bind _)

end

end Surroundings.Supplies

variable {around : Surroundings} {options : ResolveOptions} {format : Format}
  {settings : Settings} {trees : List Value} {verbose : Bool} {code : Nat}

theorem exitCode?_gate {opened : Bool} :
    exitCode? (gate opened) = some code ↔ code = if opened then 0 else 1 := by
  cases opened <;> simp [gate, exitCode?, eq_comm]

/-- The gate of cycles is closed when some path is cyclic, and in no other case. -/
theorem exits_cycles_iff {words : List String} {config : Option String} {files : List String}
    (called : cycles? words = some ⟨.cycles files config, verbose⟩)
    (supplies : around.Supplies config files settings trees) :
    Exits around ("cycles" :: words) 1 ↔
      ∃ path ∈ (Graph.build settings trees).paths,
        ((Graph.build settings trees).resolutionOf path).status = .cyclic := by
  rw [← invocation?_cycles] at called
  rw [exits_iff called (supplies.comes_cycles verbose), exitCode?_gate]
  have cyclic := @Graph.exists_cyclic_iff (Graph.build settings trees)
  refine Iff.trans ?_ cyclic.symm
  by_cases none : (Graph.build settings trees).cycles = [] <;> simp [none]

/-- The words after the name of the command ask for all paths, strictly, and for nothing to be
saved. -/
structure IsStrict (words : List String) (options : ResolveOptions) (format : Format) : Prop where
  pathless : ∃ given, Given.ofWords? resolveSwitches words = some given ∧ given.has .path = false
  called : ∃ verbose, resolve? words = some ⟨.resolve options, verbose⟩
  strict : options.strict = true
  unsaved : options.save = none
  output : Format.ofName? options.output = some format

namespace IsStrict

variable {words : List String} (asks : IsStrict words options format)
  (supplies : around.Supplies options.config options.files settings trees)

include asks supplies

/-- The gate of one path is open if it is resolved and can be shown. -/
theorem exits_path_iff {path : String} (some : path ≠ "")
    (known : (Graph.build settings trees).has path = true) :
    let outcome := (Graph.build settings trees).resolutionOf path
    Exits around ("resolve" :: "--path" :: path :: words) 0 ↔
      CanBeShown around format outcome ∧ outcome.status = .resolved := by
  intro outcome
  obtain ⟨given, read, pathless⟩ := asks.pathless
  obtain ⟨verbose, called⟩ := asks.called
  have called := (resolve?_path read pathless called).2 path some
  rw [← invocation?_resolve] at called
  let asked : ResolveOptions := { options with path := .some path }
  have runs : run ⟨.resolve asked, verbose⟩ =
      explaining (resolvePath verbose asked format path) := by
    rw [run]
    dsimp only
    rw [resolve, asks.output]
  have serves : around.Supplies asked.config asked.files settings trees := supplies
  by_cases shown : CanBeShown around format outcome
  · have comes := serves.comes_resolvePath verbose known asks.strict shown
    have ends := comes.explaining_gate
    rw [← runs] at ends
    rw [exits_iff called ends, exitCode?_gate, and_iff_right shown, Resolution.isResolved]
    cases outcome.status <;> simp
  · have faults := (serves.faults_resolvePath verbose known shown).explaining
    rw [← runs] at faults
    exact iff_of_false (not_exits_of_faults called faults 0) fun both => shown both.1

/-- The gate of all paths is open if there is a report, which can be written and is clean. -/
theorem exits_all_iff {wanted : List Datum}
    (isSet : settings.duplicateTypes.members? = some wanted) :
    Exits around ("resolve" :: words) 0 ↔
      ∃ report, Session.reportIn around.room settings wanted around.now trees options.files none =
          .ok report ∧
        CanBeWritten around format options.onlyUnresolved report ∧ report.isClean = true := by
  obtain ⟨given, read, pathless⟩ := asks.pathless
  obtain ⟨verbose, called⟩ := asks.called
  have noPath := (resolve?_path read pathless called).1
  rw [← invocation?_resolve] at called
  have runs : run ⟨.resolve options, verbose⟩ = resolveAll verbose options format := by
    rw [run]
    dsimp only
    rw [resolve, asks.output, noPath]
  obtain ⟨after, ends⟩ := supplies.ends_runFiles isSet
  cases made : Session.reportIn around.room settings wanted around.now trees options.files none with
  | error error =>
    obtain ⟨fault, rfl⟩ := Session.reportIn_eq_error made
    have faults := supplies.faults_resolveAll_of_error verbose format (made ▸ ends)
    rw [← runs] at faults
    exact iff_of_false (not_exits_of_faults called faults 0) nofun
  | ok report =>
    have makes := supplies.comes_makeReport verbose (made ▸ ends)
    simp only [Except.ok.injEq, exists_eq_left']
    by_cases written : CanBeWritten around format options.onlyUnresolved report
    · have comes := Surroundings.Supplies.comes_resolveAll makes asks.strict asks.unsaved written
      rw [← runs] at comes
      rw [exits_iff called comes, exitCode?_gate, and_iff_right written]
      cases report.isClean <;> simp
    · have faults := Surroundings.Supplies.faults_resolveAll makes written
      rw [← runs] at faults
      exact iff_of_false (not_exits_of_faults called faults 0) fun both => written both.1

end IsStrict

/-- What the commands write of the graph can be written. A table must not be asked for with keys
that close a bracket, which names of skipped nodes could open, and no key may hold the character
that half a surrogate pair is read as. -/
structure Surroundings.Fits (around : Surroundings) (format : Format) (files : List String)
    (settings : Settings) (trees : List Value) : Prop where
  values : ∀ path ∈ (Graph.build settings trees).paths,
    ((Graph.build settings trees).resolutionOf path).value.IsWritable around.room
  copies : format = .json → ∀ path ∈ (Graph.build settings trees).paths,
    ((Graph.build settings trees).resolutionOf path).value.nesting ≤ around.copyRoom
  reports : format = .json → ∀ report,
    ((Session.runFiles around.room around.now around.files files none).run
      { settings }).result = .ok report → (report.toValue true).IsWritable around.room
  closes : format = .table → ']' ∉ settings.typeKey.toList ∧ ']' ∉ settings.valueKey.toList
  characters : Text.replacement ∉ settings.typeKey.toList ++ settings.valueKey.toList

namespace Surroundings.Fits

variable {files : List String} (fits : around.Fits format files settings trees)
  (resolved : ∀ path ∈ (Graph.build settings trees).paths,
    ((Graph.build settings trees).resolutionOf path).status = .resolved)

include fits resolved

theorem canCompare : Session.CanCompare around.room settings trees none := by
  intro wanted given token compared
  obtain ⟨node, found⟩ := Graph.exists_node_of_mem_tokens (List.mem_of_mem_filter compared)
  have known := Graph.has_iff_mem_paths.mp (Graph.has_iff.mpr ⟨node, found⟩)
  rw [Duplicate.comparedValue, if_pos (resolved _ known)]
  exact fits.values _ known

theorem canBeWritten {report : Report}
    (ran : ((Session.runFiles around.room around.now around.files files none).run
      { settings }).result = .ok report) {groups : List DuplicateGroup}
    (same : Session.reportOf settings (Graph.build settings trees) groups around.now trees files =
      report) (onlyUnresolved : Bool) : CanBeWritten around format onlyUnresolved report := by
  have results : report.results = (Graph.build settings trees).resolutions := same ▸ rfl
  have values : ∀ outcome ∈ report.outcomes, outcome.value.IsWritable around.room := by
    rw [Report.outcomes_eq results, List.forall_mem_map]
    exact fits.values
  have listed : ∀ outcome ∈ report.outcomesIn onlyUnresolved,
      outcome.value.IsWritable around.room :=
    fun outcome member => values outcome (List.mem_of_mem_filter member)
  cases format with
  | table =>
    obtain ⟨type, value⟩ := fits.closes rfl
    have complete : report.dangling = [] := same ▸ (Graph.all_resolved_iff.mp resolved).2
    have skipped : report.skipped = (Graph.build settings trees).skipped := same ▸ rfl
    refine Report.exists_screenText? complete ?_ (report.listed_eq onlyUnresolved ▸ listed)
    rw [skipped]
    exact fun node member => Graph.closes_of_mem_skipped member type value
  | json => exact Report.isWritable_toValue (fits.reports rfl report ran) _
  | csv => exact listed

omit resolved in
theorem canBeShown {report : Report}
    (ran : ((Session.runFiles around.room around.now around.files files none).run
      { settings }).result = .ok report)
    (results : report.results = (Graph.build settings trees).resolutions) {path : String}
    (known : path ∈ (Graph.build settings trees).paths) :
    CanBeShown around format ((Graph.build settings trees).resolutionOf path) := by
  rw [CanBeShown]
  split
  · next json =>
    have stored : (path, (Graph.build settings trees).resolutionOf path) ∈
        report.shownResults true := by
      refine List.mem_filter.mpr ⟨?_, rfl⟩
      rw [results]
      exact List.mem_map_of_mem known
    exact ⟨fits.copies json path known,
      Report.isWritable_resolutionValue_of_toValue (fits.reports json report ran) stored⟩
  · exact fits.values path known

end Surroundings.Fits

/-- The gates of three commands agree: that of all paths is open when those of the single paths
are, as far as what they write can be written, and that of cycles is closed when some path of the
report is cyclic, whatever is written. -/
theorem gates_agree {around : Surroundings} {options : ResolveOptions} {settings : Settings}
    {trees : List Value} (supplies : around.Supplies options.config options.files settings trees) :
    let graph := Graph.build settings trees
    let ran := ((Session.runFiles around.room around.now around.files options.files none).run
      { settings }).result
    (∀ words format, IsStrict words options format →
      around.Fits format options.files settings trees → graph.has "" = false →
        (Exits around ("resolve" :: words) 0 ↔
          ∀ path ∈ graph.paths, path ≠ "" →
            Exits around ("resolve" :: "--path" :: path :: words) 0)) ∧
      ((∃ report, ran = .ok report) ↔ Session.CanCompare around.room settings trees none) ∧
      ∀ words verbose report,
        cycles? words = some ⟨.cycles options.files options.config, verbose⟩ → ran = .ok report →
          (Exits around ("cycles" :: words) 1 ↔
            ∃ outcome ∈ report.outcomes, outcome.status = .cyclic) := by
  intro graph ran
  obtain ⟨names, types⟩ := supplies.types
  have isSet := types ▸ Datum.members?_ofTexts names
  obtain ⟨after, ends⟩ := supplies.ends_runFiles isSet
  have ran_eq : ran = Session.reportIn around.room settings _ around.now trees options.files none :=
    ends.result
  refine ⟨fun words format asks fits rootless => ?_, ?_, ?_⟩
  · have singles := fun path (member : path ∈ graph.paths) (some : path ≠ "") =>
      asks.exits_path_iff supplies some (Graph.has_iff_mem_paths.mpr member)
    have some : ∀ path ∈ graph.paths, path ≠ "" := by
      rintro path member rfl
      exact Bool.false_ne_true (rootless.symm.trans (Graph.has_iff_mem_paths.mpr member))
    rw [asks.exits_all_iff supplies isSet, ← ran_eq]
    constructor
    · rintro ⟨report, found, -, clean⟩ path member -
      obtain ⟨groups, -, same⟩ := Session.reportIn_eq_ok_iff.mp (ran_eq.symm.trans found)
      have results : report.results = graph.resolutions := same ▸ rfl
      have coherent : report.Coherent graph := same ▸ Report.coherent rfl rfl rfl
      have resolved := coherent.clean_iff.mp clean
      rw [Report.outcomes_eq results, List.forall_mem_map] at resolved
      exact (singles path member (some path member)).mpr
        ⟨fits.canBeShown found results member, resolved path member⟩
    · intro opened
      have resolved : ∀ path ∈ graph.paths, (graph.resolutionOf path).status = .resolved :=
        fun path member =>
          ((singles path member (some path member)).mp (opened path member (some path member))).2
      obtain ⟨report, found⟩ :=
        (Session.exists_reportIn_iff isSet).mpr (fits.canCompare resolved)
      obtain ⟨groups, -, same⟩ := Session.reportIn_eq_ok_iff.mp found
      have results : report.results = graph.resolutions := same ▸ rfl
      have coherent : report.Coherent graph := same ▸ Report.coherent rfl rfl rfl
      refine ⟨report, ran_eq.trans found, fits.canBeWritten resolved (ran_eq.trans found) same _,
        coherent.clean_iff.mpr ?_⟩
      rw [Report.outcomes_eq results, List.forall_mem_map]
      exact resolved
  · rw [ran_eq]
    exact Session.exists_reportIn_iff isSet
  · intro words verbose report called found
    obtain ⟨groups, -, same⟩ := Session.reportIn_eq_ok_iff.mp (ran_eq.symm.trans found)
    have results : report.results = graph.resolutions := same ▸ rfl
    rw [exits_cycles_iff called supplies, Report.outcomes_eq results]
    simp only [List.mem_map, exists_exists_and_eq_and]
    rfl

/-- What surrounds a run when there is one file with a text. -/
def aroundFile (text : String) (environment : Environment) : Surroundings :=
  ⟨⟨[(["t.json"], .file text.toUTF8)]⟩, environment, newYear, 900, 250⟩

/-- The options of the words `--strict t.json`. -/
def strictOptions : ResolveOptions where
  files := ["t.json"]
  path := none
  output := "table"
  save := none
  config := none
  onlyUnresolved := false
  strict := true

theorem supplies_aroundFile {text : String} {fields : Entries Value} {environment : Environment}
    {settings : Settings}
    (settings_eq : ((Settings.load (aroundFile text environment).files environment none :
      Action Unit SettingsSourceError Settings).run ()).result = .ok settings)
    (types : settings.duplicateTypes = .ofTexts ["color"])
    (parsed : ∀ bound, Json.parseWithin bound (Text.withLineFeeds text.toList) =
      .ok (.object fields))
    (paired : Json.isPairedAfter false (Text.withLineFeeds text.toList) = true) :
    (aroundFile text environment).Supplies strictOptions.config strictOptions.files settings
      [.object fields] where
  settings_eq := settings_eq
  types := ⟨["color"], types⟩
  trees_eq := by
    have loads : TokenFile.load (aroundFile text environment).files "t.json" =
        .ok (.object fields) := TokenFile.load_of_text rfl (parsed _)
    change ["t.json"].mapM (TokenFile.load (aroundFile text environment).files) = _
    rw [List.mapM_cons, loads]
    rfl
  paired := by
    intro path member bytes read
    obtain rfl := List.mem_singleton.mp member
    obtain rfl := Except.ok.inj (read.symm.trans rfl : Except.ok bytes = .ok text.toUTF8)
    rw [Text.decode?_toUTF8]
    exact paired

theorem isStrict_strictOptions : IsStrict ["--strict", "t.json"] strictOptions .table where
  pathless := ⟨⟨[(.strict, "")], ["t.json"]⟩, by decide, by decide⟩
  called := by
    have read : Given.ofWords? resolveSwitches ["--strict", "t.json"] =
        some ⟨[(.strict, "")], ["t.json"]⟩ := by decide
    refine ⟨false, ?_⟩
    rw [resolve?, read]
    rfl
  strict := rfl
  unsaved := rfl
  output := by decide +kernel

/-- A token that refers to itself. -/
def loopText : String := "\x7b\"a\":\x7b\"$type\":\"x\",\"$value\":\"\x7ba\x7d\"\x7d\x7d"

def loop : Value := .object [("a", .object [("$type", .str "x"), ("$value", .str "\x7ba\x7d")])]

theorem supplies_loop :
    (aroundFile loopText []).Supplies strictOptions.config strictOptions.files {} [loop] :=
  supplies_aroundFile rfl rfl (fun bound => by cbv) (by decide)

theorem build_loop :
    (Graph.build {} [loop]).paths = ["a"] ∧
      (Graph.build {} [loop]).resolutionOf "a" = ⟨"a", .cyclic, .str "\x7ba\x7d"⟩ := by
  rw [loop, Graph.build_object]
  constructor
  · rfl
  · decide +kernel

theorem fits_loop : (aroundFile loopText []).Fits .table strictOptions.files {} [loop] where
  values := by
    obtain ⟨paths, outcome⟩ := build_loop
    rw [paths, List.forall_mem_singleton, outcome]
    exact Value.isWritable_str _
  copies := nofun
  reports := nofun
  closes _ := by decide
  characters := by decide

theorem gates_agree_loop :
    (aroundFile loopText []).Supplies strictOptions.config strictOptions.files {} [loop] ∧
      (Exits (aroundFile loopText []) ["resolve", "--strict", "t.json"] 0 ↔
        ∀ path ∈ (Graph.build {} [loop]).paths, path ≠ "" →
          Exits (aroundFile loopText []) ["resolve", "--path", path, "--strict", "t.json"] 0) ∧
      (∃ report, ((Session.runFiles 900 newYear (aroundFile loopText []).files ["t.json"] none).run
          { settings := {} }).result = .ok report ∧
        ∃ outcome ∈ report.outcomes, outcome.status = .cyclic) ∧
      Exits (aroundFile loopText []) ["cycles", "t.json"] 1 := by
  have also : cycles? ["t.json"] = some ⟨.cycles ["t.json"] none, false⟩ := by
    have read : Given.ofWords? cyclesSwitches ["t.json"] = some ⟨[], ["t.json"]⟩ := by decide
    rw [cycles?, read]
    rfl
  obtain ⟨paths, outcome⟩ := build_loop
  have rootless : (Graph.build {} [loop]).has "" = false := by
    rw [← Bool.not_eq_true, Graph.has_iff_mem_paths, paths]
    decide
  have compared : (Session.comparedIn {} (Graph.build {} [loop]) [.str "color"] none).map
      (Duplicate.comparedValue (Graph.build {} [loop]).resolutionOf) = [] := by
    rw [loop, Graph.build_object]
    rfl
  have compares : Session.CanCompare 900 {} [loop] none :=
    Session.canCompare_of_values (Datum.members?_ofTexts ["color"]) compared nofun
  have closed : Exits (aroundFile loopText []) ["cycles", "t.json"] 1 := by
    rw [exits_cycles_iff also supplies_loop, paths]
    exact ⟨"a", List.mem_cons_self, congrArg Resolution.status outcome⟩
  obtain ⟨all, given, agree⟩ := gates_agree supplies_loop
  obtain ⟨report, ran⟩ := given.mpr compares
  exact ⟨supplies_loop, all _ _ isStrict_strictOptions fits_loop rootless,
    ⟨report, ran, (agree _ _ report also ran).mp closed⟩, closed⟩

/-- A token, and a node whose name opens a tag that the reason why it is skipped closes. -/
def tornText : String :=
  "\x7b\"a\":\x7b\"]\":\"x\",\"$value\":null\x7d,\"[/x\":\x7b\"]\":null\x7d\x7d"

def torn : Value :=
  .object [("a", .object [("]", .str "x"), ("$value", .null)]), ("[/x", .object [("]", .null)])]

def bracketKey : Settings := { typeKey := "]" }

def aroundTorn : Surroundings := aroundFile tornText [("TOKENSYNC_TYPE_KEY", "]")]

theorem supplies_torn :
    aroundTorn.Supplies strictOptions.config strictOptions.files bracketKey [torn] :=
  supplies_aroundFile rfl rfl (fun bound => by cbv) (by decide)

theorem build_torn :
    (Graph.build bracketKey [torn]).paths = ["a"] ∧
      (Graph.build bracketKey [torn]).resolutionOf "a" = ⟨"a", .resolved, .null⟩ ∧
      (Graph.build bracketKey [torn]).skipped = [⟨"[/x", "] must be a string"⟩] := by
  rw [torn, Graph.build_object]
  exact ⟨rfl, by decide +kernel, rfl⟩

/-- Every path resolves, and yet the gate of all paths is closed: the table breaks off. -/
theorem gates_disagree_torn :
    (Graph.build bracketKey [torn]).has "" = false ∧
      (∀ path ∈ (Graph.build bracketKey [torn]).paths, path ≠ "" →
        Exits aroundTorn ["resolve", "--path", path, "--strict", "t.json"] 0) ∧
      ¬Exits aroundTorn ["resolve", "--strict", "t.json"] 0 := by
  obtain ⟨paths, outcome, skipped⟩ := build_torn
  refine ⟨?_, ?_, ?_⟩
  · rw [← Bool.not_eq_true, Graph.has_iff_mem_paths, paths]
    decide
  · intro path member some
    have known := Graph.has_iff_mem_paths.mpr member
    refine (isStrict_strictOptions.exits_path_iff supplies_torn some known).mpr ?_
    rw [paths] at member
    obtain rfl := List.mem_singleton.mp member
    rw [outcome]
    exact ⟨by rw [CanBeShown]; decide +kernel, rfl⟩
  · rw [isStrict_strictOptions.exits_all_iff supplies_torn (Datum.members?_ofTexts ["color"])]
    rintro ⟨report, found, ⟨text, shown⟩, -⟩
    obtain ⟨groups, -, rfl⟩ := Session.reportIn_eq_ok_iff.mp found
    have line := Report.shows_skipped_of_screenText? shown (skipped ▸ List.mem_cons_self)
    rw [Screen.Shows, Text.Markup.isSome_shown?] at line
    exact absurd line (by decide)

end CommandLine

end DesignTokens
