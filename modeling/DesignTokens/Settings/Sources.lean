import DesignTokens.Action
import DesignTokens.Files
import DesignTokens.Settings
import DesignTokens.Text.Decoding
import DesignTokens.Yaml.Data

/-! Where settings come from: environment variables, over which the settings of a
file take precedence. -/
namespace DesignTokens

/-- Variables that are set, by name. -/
abbrev Environment := Entries String

inductive SettingsSourceError where
  | settings (error : SettingsError)
  | fileNotFound (path : String)
  | unreadable (path : String) (error : ReadError)
  | undecodable (path : String)
  | invalidYaml (path : String) (failure : Yaml.Failure)
  | notAMapping (path : String)

namespace SettingsSourceError

/-- The setting or the file at fault. -/
def subject : SettingsSourceError → Datum
  | settings error => error.subject
  | fileNotFound path | unreadable path _ | undecodable path | invalidYaml path _
  | notAMapping path => .str path

def complaint : SettingsSourceError → List Char
  | settings error => error.complaint
  | fileNotFound _ => "config file not found".toList
  | unreadable .. => "cannot be read".toList
  | undecodable _ => "not UTF-8".toList
  | invalidYaml .. => "invalid YAML".toList
  | notAMapping _ => "expected a mapping".toList

def message (error : SettingsSourceError) : String :=
  configurationMessage error.subject error.complaint

end SettingsSourceError

namespace Settings

def environmentFields : List (String × Field) := [
  ("TOKENSYNC_TYPE_KEY", .typeKey), ("TOKENSYNC_VALUE_KEY", .valueKey),
  ("TOKENSYNC_FIGMA_ALIASES", .aliasExtension), ("TOKENSYNC_MEMOIZE", .memoize),
  ("TOKENSYNC_VERIFY", .verify)]

/-- An empty variable counts as one that is not set. -/
def setting? (environment : Environment) (name : String) : Option String :=
  (environment.lookup name).filter (· ≠ "")

def readVariable (environment : Environment) (d : Draft) (given : String × Field) :
    Except SettingsError Draft :=
  match setting? environment given.1 with
  | none => .ok d
  | some text =>
    if given.2.isSwitch then do
      return d.put (← readSwitch given.1 (.str text)) given.2
    else .ok (d.put (.str text) given.2)

def ofEnvironment (environment : Environment) : Except SettingsError Settings := do
  ofDraft (← environmentFields.foldlM (readVariable environment) ({} : Settings).draft)

def sectionName : String := "tokensync"

def overridesOf (data : Yaml.Data) (entries : List (Datum × Yaml.NodeId)) : Overrides :=
  entries.map fun (name, item) => (name, data.datum item)

/-- The overrides in a document: those in the section named for the tool, or all if
there is none. A document that counts as false has none. -/
def section? (data : Yaml.Data) : Option Overrides :=
  match data.objectAt data.root with
  | .mapping entries =>
    match entries.find? fun entry => entry.1.isText sectionName with
    | some (_, item) =>
      match data.objectAt item with
      | .mapping entries => some (overridesOf data entries)
      | _ => none
    | none => some (overridesOf data entries)
  | other => if other.isTruthy then none else some []

def readError (path : String) : ReadError → SettingsSourceError
  | .notFound => .fileNotFound path
  | error => .unreadable path error

def overridesIn (files : Files) (path : String) : Except SettingsSourceError Overrides := do
  let bytes ← (files.read path).mapError (readError path)
  let some text := Text.decode? bytes | throw (.undecodable path)
  let data ← (Yaml.parse text).mapError (.invalidYaml path)
  match section? data with
  | some overrides => return overrides
  | none => throw (.notAMapping path)

/-- The settings of the environment, overridden by those of a file if one is given. -/
def load {σ : Type} (files : Files) (environment : Environment) (path : Option String) :
    Action σ SettingsSourceError Settings := do
  let settings ← Action.ofExcept .settings (ofEnvironment environment)
  match path with
  | none => return settings
  | some path =>
    let overrides ← Action.ofExcept id (overridesIn files path)
    Action.report [.settingsLoaded path]
    Action.ofExcept .settings (settings.merged overrides)

/-- The settings that all share, loaded from the environment by the first to ask. -/
abbrev Shared := Option Settings

abbrev Sharing := Action Shared SettingsSourceError

/-- Loads the shared settings anew. -/
def reload (files : Files) (environment : Environment) (path : Option String) :
    Sharing Settings := do
  let settings ← load files environment path
  Action.put (some settings)
  return settings

/-- The shared settings, and whether they had been loaded before. -/
def shared (files : Files) (environment : Environment) : Sharing (Settings × Bool) := do
  match ← Action.state with
  | some settings => return (settings, true)
  | none => return (← reload files environment none, false)

end Settings

end DesignTokens
