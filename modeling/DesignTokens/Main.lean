import DesignTokens.CommandLine
import Std.Time.DateTime

/-! The program: it reads the files that a command line names, prints what the
command prints, and writes what it saves. -/
namespace DesignTokens.CommandLine

def pathsNamed (command : Command) : List String :=
  match command with
  | .resolve options => options.files ++ options.config.toList ++ options.save.toList
  | .duplicates options => options.files ++ options.config.toList ++ options.scope.toList
  | .cycles files config => files ++ config.toList
  | .version | .help => []

/-- What lies at a place, if anything does. -/
def look (place : Files.Place) : IO (Option FileEntry) := do
  let path := (← IO.currentDir) / Files.pathOf place
  if ← path.isDir then return some .directory
  else if ← path.pathExists then return some (.file (← IO.FS.readBinFile path))
  else return none

/-- Everything on the way to the files that a command names. -/
def gather (command : Command) : IO Files := do
  let places := ((pathsNamed command).flatMap Files.placesOn).eraseDups
  let entries ← places.filterMapM fun place => do return (← look place).map (place, ·)
  return ⟨entries⟩

def environment : IO Environment := do
  Settings.environmentFields.filterMapM fun (name, _) => do return (← IO.getEnv name).map (name, ·)

def now : IO Timestamp := do
  let moment := Std.Time.PlainDateTime.ofWallTime ((← Std.Time.Timestamp.now).toWallTime .zero)
  return {
    year := moment.year.toInt.toNat
    month := moment.month.val.toNat
    day := moment.day.val.toNat
    hour := moment.hour.val.toNat
    minute := moment.minute.val.toNat
    second := moment.second.val.toNat
    microsecond := (moment.nanosecond.val / 1000).toNat }

/-- What a stack of usual size has room for. -/
def room : Nat := 900

def copyRoom : Nat := 250

def surroundings (words : List String) : IO Surroundings := do
  let files ← match invocation? words with
    | some invocation => gather invocation.command
    | none => pure ⟨[]⟩
  return ⟨files, ← environment, ← now, room, copyRoom⟩

def save (file : String × String) : IO Unit := do
  let path := (← IO.currentDir) / file.1
  if let some directory := path.parent then IO.FS.createDirAll directory
  IO.FS.writeFile path file.2

def unwritableText : Json.Unwritable → String
  | .longInteger => "an integer has too many digits to be written"
  | .tooDeep => "a value has too many lists and objects inside each other to be written"

def faultText : Fault → String
  | .settings error => error.message
  | .file error | .session (.file error) => error.message
  | .session (.notBuilt request) => SessionError.notBuiltMessage request
  | .session .typesNotASet => "the types to compare must be a list"
  | .session (.resolver error) => error.message
  | .session (.unwritable fault) | .unwritable fault => unwritableText fault
  | .tooDeep => unwritableText .tooDeep
  | .brokenMarkup => "names in the report make up broken markup"
  | .noFileName => "the path to save to has no file name"
  | .write _ => "the output cannot be written"

end DesignTokens.CommandLine

open DesignTokens.CommandLine in
def main (words : List String) : IO UInt32 := do
  match outcome (← surroundings words) words with
  | .ok ⟨exitCode, console⟩ =>
    IO.print console.printed
    console.saved.forM save
    return exitCode.toUInt32
  | .error fault =>
    IO.eprintln (faultText fault)
    return 1
