import DesignTokens.CommandLine
import DesignTokens.Proofs.Action
import DesignTokens.Proofs.Files
import DesignTokens.Proofs.Settings.Overrides

/-! How loading settings ends: with settings, with a fault that its user is told of, or with one
that ends the tool. The environment never does that. A file does if it is there and cannot be
opened, holds no text or no data, or overrides a setting in a way that no message can say or no
check foresees. -/
namespace DesignTokens.Settings

/-- A draft that makes settings. -/
structure Draft.IsSound (d : Draft) : Prop where
  typeKey : IsKey d.typeKey
  valueKey : IsKey d.valueKey
  knownTypes : d.knownTypes.members? ≠ none

theorem isSound_default : ({} : Settings).draft.IsSound :=
  ⟨⟨_, rfl, by decide⟩, ⟨_, rfl, by decide⟩, nofun⟩

/-- A text that is not empty does for a key, and its characters are a set. -/
theorem Draft.IsSound.put {d : Draft} (sound : d.IsSound) {text : String} (nonempty : text ≠ "")
    (field : Field) : (d.put (.str text) field).IsSound := by
  obtain ⟨typeKey, valueKey, knownTypes⟩ := sound
  cases field with
  | typeKey => exact ⟨⟨text, rfl, nonempty⟩, valueKey, knownTypes⟩
  | valueKey => exact ⟨typeKey, ⟨text, rfl, nonempty⟩, knownTypes⟩
  | knownTypes => exact ⟨typeKey, valueKey, nofun⟩
  | _ => exact ⟨typeKey, valueKey, knownTypes⟩

theorem Draft.IsSound.put_switch {d : Draft} (sound : d.IsSound) {field : Field}
    (switch : field.isSwitch = true) (given : Datum) : (d.put given field).IsSound := by
  obtain ⟨typeKey, valueKey, knownTypes⟩ := sound
  cases field with
  | aliasExtension | memoize | verify => exact ⟨typeKey, valueKey, knownTypes⟩
  | _ => cases switch

/-- A variable keeps a draft sound, or is no word for a switch. -/
theorem readVariable_cases (environment : Environment) {d : Draft} (sound : d.IsSound)
    (given : String × Field) :
    (∃ next, readVariable environment d given = .ok next ∧ next.IsSound) ∨
      ∃ text, readVariable environment d given = .error (.notBoolean given.1 (.str text)) := by
  unfold readVariable
  cases found : setting? environment given.1 with
  | none => exact .inl ⟨d, rfl, sound⟩
  | some text =>
    have nonempty : text ≠ "" := by simpa using (Option.filter_eq_some_iff.mp found).2
    dsimp only
    split
    · next switch =>
      obtain ⟨long, -⟩ | ⟨-, ⟨b, read⟩ | read⟩ := readSwitch_cases given.1 (.str text)
      · cases long
      · rw [read]
        exact .inl ⟨_, rfl, sound.put_switch switch (.bool b)⟩
      · rw [read]
        exact .inr ⟨text, rfl⟩
    · exact .inl ⟨_, rfl, sound.put nonempty given.2⟩

theorem readVariables_cases (environment : Environment) (given : List (String × Field)) {d : Draft}
    (sound : d.IsSound) :
    (∃ last, given.foldlM (readVariable environment) d = .ok last ∧ last.IsSound) ∨
      ∃ name text, given.foldlM (readVariable environment) d =
        .error (.notBoolean name (.str text)) := by
  induction given generalizing d with
  | nil => exact .inl ⟨d, rfl, sound⟩
  | cons first rest ih =>
    rw [List.foldlM_cons]
    obtain ⟨next, read, sound⟩ | ⟨text, refused⟩ := readVariable_cases environment sound first
    · rw [read]
      exact ih sound
    · rw [refused]
      exact .inr ⟨_, text, rfl⟩

/-- The environment makes settings, or has no word for a switch. -/
theorem ofEnvironment_cases (environment : Environment) :
    (∃ s, ofEnvironment environment = .ok s ∧ s.IsKeyed) ∨
      ∃ name text, ofEnvironment environment = .error (.notBoolean name (.str text)) := by
  unfold ofEnvironment
  obtain ⟨last, read, sound⟩ | ⟨name, text, refused⟩ :=
    readVariables_cases environment environmentFields isSound_default
  · rw [read]
    obtain ⟨s, made, -⟩ | ⟨-, -, noSet, -⟩ | ⟨noKeys, -⟩ := ofDraft_cases last
    · exact .inl ⟨s, made, isKeyed_of_ofDraft made⟩
    · exact absurd noSet sound.knownTypes
    · exact absurd ⟨sound.typeKey, sound.valueKey⟩ noKeys
  · rw [refused]
    exact .inr ⟨name, text, rfl⟩

theorem isKeyed_of_ofEnvironment {environment : Environment} {s : Settings}
    (made : ofEnvironment environment = .ok s) : s.IsKeyed := by
  obtain ⟨s', made', keyed⟩ | ⟨name, text, refused⟩ := ofEnvironment_cases environment
  · obtain rfl := Except.ok.inj (made.symm.trans made')
    exact keyed
  · exact nomatch made.symm.trans refused

/-- What a settings file comes to. -/
inductive ComesTo (files : Files) (file : String) : Except SettingsSourceError Overrides → Prop
  | unreadable {e : ReadError} (read : files.read file = .error e) :
      ComesTo files file (.error (readError file e))
  | undecodable {bytes : ByteArray} (read : files.read file = .ok bytes)
      (noText : ∀ text : String, text.toUTF8 ≠ bytes) :
      ComesTo files file (.error (.undecodable file))
  | invalid {text : String} {failure : Yaml.Failure} (read : files.read file = .ok text.toUTF8)
      (parsed : Yaml.parse (Text.withLineFeeds text.toList) = .error failure) :
      ComesTo files file (.error (.invalidYaml file failure))
  | notAMapping {text : String} {data : Yaml.Data} (read : files.read file = .ok text.toUTF8)
      (parsed : Yaml.parse (Text.withLineFeeds text.toList) = .ok data)
      (noSection : section? data = none) : ComesTo files file (.error (.notAMapping file))
  | overrides {text : String} {data : Yaml.Data} {overrides : Overrides}
      (read : files.read file = .ok text.toUTF8)
      (parsed : Yaml.parse (Text.withLineFeeds text.toList) = .ok data)
      (found : section? data = some overrides) : ComesTo files file (.ok overrides)

theorem comesTo_overridesIn (files : Files) (file : String) :
    ComesTo files file (overridesIn files file) := by
  unfold overridesIn
  cases read : files.read file with
  | error e => exact .unreadable read
  | ok bytes =>
    dsimp only [Except.mapError, bind, Except.bind]
    cases decoded : Text.decode? bytes with
    | none => exact .undecodable read (Text.decode?_eq_none_iff.mp decoded)
    | some s =>
      obtain ⟨text, rfl, rfl⟩ := Text.decode?_eq_some_iff.mp decoded
      dsimp only
      cases parsed : Yaml.parse (Text.withLineFeeds text.toList) with
      | error failure => exact .invalid read parsed
      | ok data =>
        dsimp only
        cases found : section? data with
        | none => exact .notAMapping read parsed found
        | some overrides => exact .overrides read parsed found

theorem ComesTo.overridesIn_eq {files : Files} {file : String}
    {result : Except SettingsSourceError Overrides} (comes : ComesTo files file result) :
    overridesIn files file = result := by
  unfold overridesIn
  cases comes with
  | unreadable read =>
    rw [read]
    rfl
  | undecodable read noText =>
    rw [read]
    dsimp only [Except.mapError, bind, Except.bind]
    rw [Text.decode?_eq_none_iff.mpr noText]
    rfl
  | invalid read parsed =>
    rw [read]
    dsimp only [Except.mapError, bind, Except.bind]
    rw [Text.decode?_toUTF8]
    dsimp only
    rw [parsed]
  | notAMapping read parsed noSection =>
    rw [read]
    dsimp only [Except.mapError, bind, Except.bind]
    rw [Text.decode?_toUTF8]
    dsimp only
    rw [parsed]
    dsimp only
    rw [noSection]
    rfl
  | overrides read parsed found =>
    rw [read]
    dsimp only [Except.mapError, bind, Except.bind]
    rw [Text.decode?_toUTF8]
    dsimp only
    rw [parsed]
    dsimp only
    rw [found]
    rfl

section

variable {σ : Type} {files : Files} {environment : Environment} {file : String}

theorem load_result_of_error {e : SettingsError} (refused : ofEnvironment environment = .error e)
    (path : Option String) (t : σ) :
    ((load files environment path).run t).result = .error (.settings e) := by
  unfold load
  rw [refused]
  rfl

theorem load_result_none {s : Settings} (made : ofEnvironment environment = .ok s) (t : σ) :
    ((load files environment none).run t).result = .ok s := by
  unfold load
  rw [made]
  rfl

theorem load_result_some {s : Settings} (made : ofEnvironment environment = .ok s) (t : σ) :
    ((load files environment (some file)).run t).result =
      (overridesIn files file).bind fun overrides => (s.merged overrides).mapError .settings := by
  unfold load
  rw [made, Action.run_bind, Action.run_ofExcept_ok, Action.andThen_ok]
  dsimp only
  rw [Action.run_bind]
  cases overridesIn files file with
  | error e => rfl
  | ok overrides =>
    exact (Action.ends_ofExcept SettingsSourceError.settings (s.merged overrides) t).result

/-- Why a settings file makes the tool end without a message of its own. -/
inductive Unexplained (files : Files) (file : String) : SettingsSourceError → Prop
  | unreadable {e : ReadError} (read : files.read file = .error e) (found : e ≠ .notFound) :
      Unexplained files file (.unreadable file e)
  | undecodable {bytes : ByteArray} (read : files.read file = .ok bytes)
      (noText : ∀ text : String, text.toUTF8 ≠ bytes) : Unexplained files file (.undecodable file)
  | invalid {text : String} {failure : Yaml.Failure} (read : files.read file = .ok text.toUTF8)
      (parsed : Yaml.parse (Text.withLineFeeds text.toList) = .error failure)
      (strange : failure ≠ .malformed) : Unexplained files file (.invalidYaml file failure)
  | refused {text : String} {data : Yaml.Data} {overrides : Overrides} {e : SettingsError}
      (read : files.read file = .ok text.toUTF8)
      (parsed : Yaml.parse (Text.withLineFeeds text.toList) = .ok data)
      (found : section? data = some overrides) (trips : Trips overrides e) :
      Unexplained files file (.settings e)

theorem unexplained_iff {s : Settings} (made : ofEnvironment environment = .ok s) (t : σ)
    {error : SettingsSourceError} :
    Unexplained files file error ↔
      ((load files environment (some file)).run t).result = .error error ∧
        CommandLine.settingsComplaint? error = none := by
  have keyed := isKeyed_of_ofEnvironment made
  rw [load_result_some made]
  constructor
  · intro unexplained
    cases unexplained with
    | @unreadable e read found =>
      rw [(ComesTo.unreadable read).overridesIn_eq]
      cases e with
      | notFound => contradiction
      | _ => exact ⟨rfl, rfl⟩
    | undecodable read noText =>
      rw [(ComesTo.undecodable read noText).overridesIn_eq]
      exact ⟨rfl, rfl⟩
    | invalid read parsed strange =>
      rw [(ComesTo.invalid read parsed).overridesIn_eq]
      exact ⟨rfl, if_neg strange⟩
    | refused read parsed found trips =>
      rw [(ComesTo.overrides read parsed found).overridesIn_eq]
      dsimp only [Except.bind]
      cases trips with
      | longInteger split accepted unwritable =>
        rw [merged_eq_longInteger_iff.mpr (.longInteger split accepted unwritable)]
        exact ⟨rfl, rfl⟩
      | notASet accepted typeKey valueKey given noSet =>
        rw [(merged_eq_notASet_iff keyed).mpr (.notASet accepted typeKey valueKey given noSet)]
        exact ⟨rfl, rfl⟩
  · -- What the file comes to says which fault it is; those with a complaint contradict its lack.
    have comes := comesTo_overridesIn files file
    generalize overridesIn files file = result at comes
    rintro ⟨failed, silent⟩
    cases comes with
    | @unreadable e read =>
      obtain rfl := Except.error.inj failed
      cases e with
      | notFound => contradiction
      | _ => exact .unreadable read (by decide)
    | undecodable read noText =>
      obtain rfl := Except.error.inj failed
      exact .undecodable read noText
    | @invalid text failure read parsed =>
      obtain rfl := Except.error.inj failed
      refine .invalid read parsed ?_
      rintro rfl
      contradiction
    | notAMapping read parsed noSection =>
      obtain rfl := Except.error.inj failed
      contradiction
    | @overrides text data overrides read parsed found =>
      dsimp only [Except.bind] at failed
      cases merged : s.merged overrides with
      | ok settings =>
        rw [merged] at failed
        contradiction
      | error e =>
        rw [merged] at failed
        obtain rfl := Except.error.inj failed
        cases e with
        | longInteger => exact .refused read parsed found (merged_eq_longInteger_iff.mp merged)
        | notASet => exact .refused read parsed found ((merged_eq_notASet_iff keyed).mp merged)
        | unknownField name => exact absurd merged merged_ne_unknownField
        | _ => contradiction

end

private theorem settingsComplaint?_eq_some {error : SettingsSourceError}
    (told : CommandLine.settingsComplaint? error ≠ none) :
    CommandLine.settingsComplaint? error = some error.message := by
  cases error with
  | settings e =>
    cases e with
    | unknownField | notASet | longInteger => contradiction
    | _ => rfl
  | invalidYaml path failure =>
    by_cases malformed : failure = .malformed
    · exact if_pos malformed
    · exact absurd (if_neg malformed) told
  | unreadable | undecodable => contradiction
  | fileNotFound | notAMapping => rfl

/-- Settings are loaded, or their user is told what is wrong, unless the environment makes settings
and there is a file that is no settings file for one of the reasons above. -/
theorem settings_explained_iff {σ : Type} (files : Files) (environment : Environment)
    (path : Option String) (t : σ) :
    ((∃ settings, ((load files environment path).run t).result = .ok settings) ∨
      ∃ error, ((load files environment path).run t).result = .error error ∧
        CommandLine.settingsComplaint? error = some error.message) ↔
      ¬((∃ settings, ofEnvironment environment = .ok settings) ∧
        ∃ file, path = some file ∧ ∃ error, Unexplained files file error) := by
  obtain ⟨s, made, -⟩ | ⟨name, text, refused⟩ := ofEnvironment_cases environment
  · cases path with
    | none =>
      refine iff_of_true (.inl ⟨s, load_result_none made t⟩) ?_
      rintro ⟨-, file, same, -⟩
      cases same
    | some file =>
      constructor
      · rintro explained ⟨-, other, same, error, unexplained⟩
        obtain rfl := Option.some.inj same
        obtain ⟨failed, silent⟩ := (unexplained_iff made t).mp unexplained
        rw [failed] at explained
        obtain ⟨settings, loaded⟩ | ⟨error, same, told⟩ := explained
        · cases loaded
        · obtain rfl := Except.error.inj same
          exact nomatch silent.symm.trans told
      · intro explained
        cases failed : ((load files environment (some file)).run t).result with
        | ok settings => exact .inl ⟨settings, rfl⟩
        | error error =>
          refine .inr ⟨error, rfl, settingsComplaint?_eq_some fun silent => explained ?_⟩
          exact ⟨⟨s, made⟩, file, rfl, error, (unexplained_iff made t).mpr ⟨failed, silent⟩⟩
  · refine iff_of_true (.inr ⟨_, load_result_of_error refused path t, rfl⟩) ?_
    rintro ⟨⟨s, made⟩, -⟩
    exact nomatch refused.symm.trans made

/-- A directory where a settings file is looked for. -/
def bareDirectory : Files := ⟨[(["d"], .directory)]⟩

theorem bareDirectory_unexplained :
    ¬((∃ settings, ((load bareDirectory [] (some "d")).run ()).result = .ok settings) ∨
      ∃ error, ((load bareDirectory [] (some "d")).run ()).result = .error error ∧
        (CommandLine.settingsComplaint? error).isSome) := by
  have failed : ((load bareDirectory [] (some "d")).run ()).result =
      .error (.unreadable "d" .isDirectory) := by rfl
  rw [failed]
  rintro (⟨settings, loaded⟩ | ⟨error, same, told⟩)
  · contradiction
  · obtain rfl := Except.error.inj same
    contradiction

end DesignTokens.Settings
