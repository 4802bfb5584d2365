import DesignTokens.Datum.Agreement
import DesignTokens.Datum.Literal
import DesignTokens.Text.Blank

/-! The settings of a run. Values may come from files in which any setting can
hold anything, so switches are kept as given and count by their truth. -/
namespace DesignTokens

def knownTypeNames : List String := [
  "color", "number", "shadow", "border", "typography", "gradient", "transition", "cubic-bezier",
  "duration", "dimension", "fontFamily", "fontWeight", "fontSize", "lineHeight", "letterSpacing",
  "string", "boolean", "other"]

structure Settings where
  typeKey : String := "$type"
  valueKey : String := "$value"
  /-- Whether the alias extension of a token declares a reference. -/
  aliasExtension : Datum := .bool true
  memoize : Datum := .bool true
  verify : Datum := .bool false
  duplicateTypes : Datum := .list [.str "color"]
  /-- A set, its members in the order they were given. -/
  knownTypes : List Datum := knownTypeNames.map .str

inductive SettingsError where
  | emptyKey (setting : String)
  | notBoolean (setting : String) (given : Datum)
  | unknownSetting (name : Datum)
  | unknownField (name : String)
  | notASet
  /-- An integer with too many digits would have to be written. -/
  | longInteger

namespace Settings

def trueWords : List String := ["1", "true", "yes", "on"]

def falseWords : List String := ["0", "false", "no", "off"]

def readSwitch (setting : String) (given : Datum) : Except SettingsError Datum :=
  match given with
  | .bool b => .ok (.bool b)
  | _ =>
    if !given.isWritable then .error .longInteger
    else
      let word := (String.ofList (Text.stripped given.inMessage)).toLower
      if word ∈ trueWords then .ok (.bool true)
      else if word ∈ falseWords then .ok (.bool false)
      else .error (.notBoolean setting given)

/-- Settings as given, one value a field, before they are checked. -/
structure Draft where
  typeKey : Datum
  valueKey : Datum
  aliasExtension : Datum
  memoize : Datum
  verify : Datum
  duplicateTypes : Datum
  knownTypes : Datum

def draft (s : Settings) : Draft :=
  ⟨.str s.typeKey, .str s.valueKey, s.aliasExtension, s.memoize, s.verify, s.duplicateTypes,
    .set s.knownTypes⟩

def readKey (setting : String) : Datum → Except SettingsError String
  | .str key => if key = "" then .error (.emptyKey setting) else .ok key
  | _ => .error (.emptyKey setting)

/-- One duplicate type may be given without a list. -/
def asTypeList : Datum → Datum
  | .str type => .list [.str type]
  | other => other

def ofDraft (d : Draft) : Except SettingsError Settings := do
  let typeKey ← readKey "type_key" d.typeKey
  let valueKey ← readKey "value_key" d.valueKey
  let known ← d.knownTypes.members?.elim (.error .notASet) .ok
  return {
    typeKey, valueKey
    aliasExtension := d.aliasExtension
    memoize := d.memoize
    verify := d.verify
    duplicateTypes := asTypeList d.duplicateTypes
    knownTypes := known }

inductive Field where
  | typeKey
  | valueKey
  | aliasExtension
  | memoize
  | verify
  | duplicateTypes
  | knownTypes
deriving DecidableEq

namespace Field

def name : Field → String
  | typeKey => "type_key"
  | valueKey => "value_key"
  | aliasExtension => "figma_alias_extension"
  | memoize => "memoize"
  | verify => "verify_determinism"
  | duplicateTypes => "duplicate_types"
  | knownTypes => "known_types"

def all : List Field :=
  [typeKey, valueKey, aliasExtension, memoize, verify, duplicateTypes, knownTypes]

def ofName? (name : String) : Option Field := all.find? (·.name = name)

def isSwitch : Field → Bool
  | aliasExtension | memoize | verify => true
  | _ => false

@[simp] theorem ofName?_name (field : Field) : ofName? field.name = some field := by
  cases field <;> decide

end Field

def Draft.put (d : Draft) (value : Datum) : Field → Draft
  | .typeKey => { d with typeKey := value }
  | .valueKey => { d with valueKey := value }
  | .aliasExtension => { d with aliasExtension := value }
  | .memoize => { d with memoize := value }
  | .verify => { d with verify := value }
  | .duplicateTypes => { d with duplicateTypes := value }
  | .knownTypes => { d with knownTypes := value }

/-- Names of settings are texts, but what a file names may be any datum. -/
abbrev Overrides := List (Datum × Datum)

def fieldNamed? : Datum → Option Field
  | .str name => Field.ofName? name
  | _ => none

def unknown (name : Datum) : SettingsError :=
  if name.isWritable then .unknownSetting name else .longInteger

def Draft.override (d : Draft) (given : Datum × Datum) : Except SettingsError Draft :=
  match fieldNamed? given.1 with
  | none => .error (unknown given.1)
  | some field =>
    if field.isSwitch then do return d.put (← readSwitch field.name given.2) field
    else .ok (d.put given.2 field)

/-- The settings with some replaced, the overrides read in their order. -/
def merged (s : Settings) (overrides : Overrides) : Except SettingsError Settings := do
  ofDraft (← overrides.foldlM Draft.override s.draft)

def Draft.assign (d : Draft) (given : String × Datum) : Except SettingsError Draft :=
  match Field.ofName? given.1 with
  | none => .error (.unknownField given.1)
  | some field => .ok (d.put given.2 field)

/-- Settings from named values that are taken as they are. -/
def ofFields (fields : Entries Datum) : Except SettingsError Settings := do
  ofDraft (← fields.foldlM Draft.assign ({} : Settings).draft)

def knows (s : Settings) (type : String) : Bool := s.knownTypes.any (·.isText type)

end Settings

namespace SettingsError

/-- The setting at fault, as it was written. -/
def subject : SettingsError → Datum
  | emptyKey setting | notBoolean setting _ => .str setting
  | unknownSetting name => name
  | unknownField name => .str name
  | notASet => .str "known_types"
  | longInteger => .null

def complaint : SettingsError → List Char
  | emptyKey _ => "must be a non-empty string".toList
  | notBoolean _ given => "expected a boolean, got ".toList ++ given.literal
  | unknownSetting _ | unknownField _ => "unknown setting".toList
  | notASet => "expected a set".toList
  | longInteger => "integer with too many digits".toList

end SettingsError

def configurationMessage (subject : Datum) (complaint : List Char) : String :=
  String.ofList ("Configuration error [".toList ++ subject.inMessage ++ "]: ".toList ++ complaint)

end DesignTokens
