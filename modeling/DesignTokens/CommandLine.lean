import DesignTokens.CommandLine.Options
import DesignTokens.Report.Csv
import DesignTokens.Report.Json
import DesignTokens.Report.Screen
import DesignTokens.Session
import DesignTokens.Settings.Sources

/-! The command line: what each command prints and writes, and its exit code. What
goes wrong with a file or a setting is printed; some faults end the tool instead. -/
namespace DesignTokens.CommandLine

inductive Format where
  | table
  | json
  | csv
deriving DecidableEq

namespace Format

def name : Format → String
  | table => "table"
  | json => "json"
  | csv => "csv"

def all : List Format := [table, json, csv]

/-- Letters of either case. -/
def ofName? (name : String) : Option Format := all.find? (·.name = name.toLower)

def extension : Format → String
  | table => ".txt"
  | json => ".json"
  | csv => ".csv"

end Format

structure ResolveOptions where
  files : List String
  path : Option String
  output : String
  save : Option String
  config : Option String
  onlyUnresolved : Bool
  strict : Bool

structure DuplicatesOptions where
  files : List String
  scope : Option String
  types : List String
  output : String
  config : Option String

inductive Command where
  | resolve (options : ResolveOptions)
  | duplicates (options : DuplicatesOptions)
  | cycles (files : List String) (config : Option String)
  | version
  | help

/-- A command, and whether to print what is logged in detail. -/
structure Invocation where
  command : Command
  verbose : Bool := false

def resolveSwitches : List Switch :=
  [.path, .output, .save, .config, .unresolved, .strict, .verbose, .help]

def duplicatesSwitches : List Switch := [.scope, .type, .output, .config, .verbose, .help]

def cyclesSwitches : List Switch := [.config, .verbose, .help]

def helpInvocation : Invocation := ⟨.help, false⟩

/-- No path holds a null character. -/
def path? (word : String) : Option String :=
  if word.toList.contains '\x00' then none else some (Files.normal word)

def files? (given : Given) : Option (List String) :=
  if given.operands = [] then none else given.operands.mapM path?

def pathOption? (given : Given) (switch : Switch) : Option (Option String) :=
  (given.last? switch).mapM path?

def outputOption (given : Given) : String := (given.last? .output).getD Format.table.name

def resolve? (words : List String) : Option Invocation := do
  let given ← Given.ofWords? resolveSwitches words
  if given.has .help then return helpInvocation
  return ⟨.resolve {
    files := ← files? given
    path := (given.last? .path).filter (· ≠ "")
    output := outputOption given
    save := ← pathOption? given .save
    config := ← pathOption? given .config
    onlyUnresolved := given.has .unresolved
    strict := given.has .strict }, given.has .verbose⟩

def duplicates? (words : List String) : Option Invocation := do
  let given ← Given.ofWords? duplicatesSwitches words
  if given.has .help then return helpInvocation
  return ⟨.duplicates {
    files := ← files? given
    scope := ← pathOption? given .scope
    types := given.all .type
    output := outputOption given
    config := ← pathOption? given .config }, given.has .verbose⟩

def cycles? (words : List String) : Option Invocation := do
  let given ← Given.ofWords? cyclesSwitches words
  if given.has .help then return helpInvocation
  return ⟨.cycles (← files? given) (← pathOption? given .config), given.has .verbose⟩

def version? (words : List String) : Option Invocation := do
  let given ← Given.ofWords? [.help] words
  if given.has .help then return helpInvocation
  if given.operands = [] then return ⟨.version, false⟩ else none

/-- Help asked for before any command; no other option is known there. -/
def help? : List String → Option Invocation
  | [] => some helpInvocation
  | word :: words =>
    if word = "--help" then help? words
    else if isOption word ∧ word ≠ "--" then none
    else some helpInvocation

def command? : List String → Option Invocation
  | "resolve" :: words => resolve? words
  | "duplicates" :: words => duplicates? words
  | "cycles" :: words => cycles? words
  | "version" :: words => version? words
  | "--help" :: words => help? words
  | _ => none

/-- Nothing if the words are no proper command. -/
def invocation? : List String → Option Invocation
  | "--" :: words => if words.head? = some "--help" then none else command? words
  | words => command? words

inductive Fault where
  | settings (error : SettingsSourceError)
  | file (error : TokenFileError)
  | session (error : SessionError)
  /-- A path to save to that has no last name. -/
  | noFileName
  | brokenMarkup
  | unwritable (fault : Json.Unwritable)
  /-- A single value with too many lists and objects inside each other. -/
  | tooDeep
  | write (error : WriteError)

/-- Why a command ends before its last step. -/
inductive Stop where
  | exit (code : Nat)
  | fault (fault : Fault)

structure Console where
  printed : String := ""
  /-- The files written, by path, with their texts. -/
  saved : Entries String := []

/-- What surrounds a run. -/
structure Surroundings where
  files : Files
  environment : Environment
  now : Timestamp
  /-- How many lists and objects may be inside each other in what is written. -/
  room : Nat
  /-- The same for a single value that is written as JSON: it is copied before. -/
  copyRoom : Nat

abbrev Run := ReaderT Surroundings (ExceptT Stop (StateM Console))

def printText (text : String) : Run Unit :=
  modify fun console => { console with printed := console.printed ++ text }

def orBroken (text : Option String) : Run String :=
  match text with
  | some text => return text
  | none => throw (.fault .brokenMarkup)

def orUnwritable {α : Type} (written : Except Json.Unwritable α) : Run α :=
  match written with
  | .ok a => return a
  | .error fault => throw (.fault (.unwritable fault))

def display (blocks : List Block) : Run Unit := do
  printText (← orBroken (Screen.text? false blocks))

def echo (text : String) : Run Unit := printText (Screen.withoutSequences text ++ "\n")

def exit {α : Type} (code : Nat) : Run α := throw (.exit code)

def logLine (event : Event) : Block := .text s!"{event.level.name} {event.message}".toList

def log (verbose : Bool) (journal : Journal) : Run Unit :=
  display ((journal.from (if verbose then .debug else .info)).map logLine)

def perform {σ ε α : Type} (verbose : Bool) (wrap : ε → Fault) (action : Action σ ε α) (s : σ) :
    Run (α × σ) := do
  let ran := action.run s
  log verbose ran.journal
  match ran.result with
  | .ok a => return (a, ran.state)
  | .error e => throw (.fault (wrap e))

def complain {α : Type} (message : String) : Run α := do
  display [.line ("[red]Error: ".toList ++ Report.escaped message ++ "[/]".toList)]
  exit 1

/-- What is said about a fault that is the user's to mend. -/
def settingsComplaint? (error : SettingsSourceError) : Option String :=
  match error with
  | .settings (.unknownField _) | .settings .notASet | .settings .longInteger | .unreadable ..
  | .undecodable _ => none
  | .invalidYaml _ failure => if failure = .malformed then some error.message else none
  | .settings _ | .fileNotFound _ | .notAMapping _ => some error.message

def fileComplaint? (error : TokenFileError) : Option String :=
  match error.cause with
  | .undecodable | .longInteger | .nullInPath => none
  | _ => some error.message

def complaint? : Fault → Option String
  | .settings error => settingsComplaint? error
  | .file error | .session (.file error) => fileComplaint? error
  | .session (.resolver (.disagreement path first second)) =>
    some (ResolverError.disagreement path first second).message
  | .session _ | .noFileName | .brokenMarkup | .unwritable _ | .tooDeep | .write _ => none

def explaining {α : Type} (run : Run α) : Run α :=
  tryCatch run fun stop =>
    match stop with
    | .exit code => exit code
    | .fault fault =>
      match complaint? fault with
      | some message => complain message
      | none => throw stop

def loadSettings (verbose : Bool) (config : Option String) : Run Settings := do
  let around ← read
  return (← perform verbose .settings (Settings.load around.files around.environment config) ()).1

def inSession {α : Type} (verbose : Bool) (action : Session.Running α) (session : Session) :
    Run (α × Session) :=
  perform verbose .session action session

def buildSession (verbose : Bool) (settings : Settings) (files : List String) :
    Run (Graph × Session) := do
  let around ← read
  let action : Session.Running Graph := do Session.build (← Session.loadTrees around.files files)
  inSession verbose action { settings }

/-- A copy of what is shown on its own, without the numbers that JSON has no words for. -/
def copied (outcome : Resolution) : Run Resolution := do
  if (← read).copyRoom < outcome.value.nesting then throw (.fault .tooDeep)
  else return { outcome with value := outcome.value.finite }

def showResolution (format : Format) (outcome : Resolution) : Run Unit := do
  let room := (← read).room
  if format = .json then
    let shown ← copied outcome
    echo (← orUnwritable (Json.print room (Json.columns 2) (Report.resolutionValue shown)))
  else
    let key ← orUnwritable (outcome.value.key room)
    display [.line (Status.painted "cyan" (String.ofList (Report.escaped outcome.path)) ++ [' '] ++
      outcome.status.markup ++ [' '] ++ Report.escaped key)]

def resolvePath (verbose : Bool) (options : ResolveOptions) (format : Format) (path : String) :
    Run Unit := do
  let (graph, session) ← buildSession verbose (← loadSettings verbose options.config) options.files
  if !graph.has path then complain s!"Token not found: {path}"
  let (outcome, _) ← inSession verbose (Session.resolve path) session
  showResolution format outcome
  if options.strict && !outcome.isResolved then exit 1

def makeReport (verbose : Bool) (options : ResolveOptions) : Run Report := do
  let settings ← loadSettings verbose options.config
  let around ← read
  return (← inSession verbose (Session.runFiles around.room around.now around.files
    options.files none) { settings }).1

def reportText (format : Format) (onlyUnresolved : Bool) (report : Report) : Run String := do
  let room := (← read).room
  match format with
  | .table => orBroken (← orUnwritable (report.screenText? room onlyUnresolved))
  | .json => orUnwritable (report.jsonText room (Json.columns 2) !onlyUnresolved)
  | .csv => orUnwritable (report.csvText room ',' true onlyUnresolved)

/-- As it is written to a file. -/
def savedText (format : Format) (onlyUnresolved : Bool) (report : Report) : Run String := do
  match format with
  | .table => orUnwritable (report.plainText (← read).room onlyUnresolved)
  | other => reportText other onlyUnresolved report

def saveText (path : String) (format : Format) (text : String) : Run Unit := do
  let files := (← read).files
  let files ← ofWrite (files.makeParents path)
  let some saved := Files.withExtension? path format.extension | throw (.fault .noFileName)
  let _ ← ofWrite (files.write saved text)
  modify fun console => { console with
    saved := console.saved.put (Files.pathOf (Files.placeOf saved)) text }
  display [.line (Status.painted "green" ("Saved to " ++ String.ofList (Report.escaped saved)))]
where
  ofWrite {α : Type} : Except WriteError α → Run α
    | .ok a => return a
    | .error error => throw (.fault (.write error))

def resolveAll (verbose : Bool) (options : ResolveOptions) (format : Format) : Run Unit := do
  let report ← explaining (makeReport verbose options)
  echo (← reportText format options.onlyUnresolved report)
  if let some path := options.save then
    saveText path format (← savedText format options.onlyUnresolved report)
  if options.strict && !report.isClean then exit 1

def resolve (verbose : Bool) (options : ResolveOptions) : Run Unit := do
  let some format := Format.ofName? options.output
    | complain s!"Invalid output format: {options.output}. Use table, json or csv"
  match options.path with
  | some path => explaining (resolvePath verbose options format path)
  | none => resolveAll verbose options format

def prepareSearch (verbose : Bool) (options : DuplicatesOptions) :
    Run (Session × Option Value) := do
  let (_, session) ← buildSession verbose (← loadSettings verbose options.config) options.files
  let files := (← read).files
  match options.scope.map (TokenFile.load files) with
  | none => return (session, none)
  | some (.ok tree) => return (session, some tree)
  | some (.error error) => throw (.fault (.file error))

def duplicates (verbose : Bool) (options : DuplicatesOptions) : Run Unit := do
  let (session, scope) ← explaining (prepareSearch verbose options)
  let types := Datum.ofTexts options.types
  let room := (← read).room
  let (groups, _) ← inSession verbose (Session.findDuplicates room scope (some types)) session
  if options.output.toLower = Format.json.name then
    echo (← orUnwritable
      (Json.print room (Json.columns 2) (.list (groups.map Report.groupValue))))
  else if groups = [] then display [.line (Status.painted "green" "No duplicate values found")]
  else display [.table (DuplicateGroup.table groups)]

def loadGraph (verbose : Bool) (files : List String) (config : Option String) : Run Graph := do
  return (← buildSession verbose (← loadSettings verbose config) files).1

def cycles (verbose : Bool) (files : List String) (config : Option String) : Run Unit := do
  let graph ← explaining (loadGraph verbose files config)
  log verbose graph.cycleJournal
  if graph.cycles = [] then
    display [.line (Status.painted "green" s!"No circular references in {graph.size} tokens")]
  else
    display (.line (Status.painted "bold red" "Circular references detected:") ::
      graph.cycles.map fun chain =>
        .line ("  ".toList ++ Report.escaped (CycleWarning.ofChain chain).message))
    exit 1

def helpText : String := String.intercalate "\n" [
  "Usage: tokensync COMMAND FILES [OPTIONS]",
  "",
  "  resolve     Resolve every token, or one path, to its concrete value",
  "  duplicates  List tokens that resolve to the same value",
  "  cycles      Report circular references",
  "  version     Show version information"]

def run (invocation : Invocation) : Run Unit :=
  match invocation.command with
  | .resolve options => resolve invocation.verbose options
  | .duplicates options => duplicates invocation.verbose options
  | .cycles files config => cycles invocation.verbose files config
  | .version => display [.line ("tokensync v" ++ toolVersion).toList]
  | .help => echo helpText

structure Outcome where
  exitCode : Nat
  console : Console

def usageError : Nat := 2

/-- What a command line does, or the fault that ends it. -/
def outcome (around : Surroundings) (words : List String) : Except Fault Outcome :=
  match invocation? words with
  | none => .ok ⟨usageError, {}⟩
  | some invocation =>
    match (ExceptT.run (ReaderT.run (run invocation) around)).run {} with
    | (.ok (), console) => .ok ⟨0, console⟩
    | (.error (.exit code), console) => .ok ⟨code, console⟩
    | (.error (.fault fault), _) => .error fault

end DesignTokens.CommandLine
