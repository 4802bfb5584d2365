import DesignTokens.CommandLine
import DesignTokens.Proofs.Files
import DesignTokens.Proofs.Json.LongInteger

/-! How loading a token file ends: with an object, with a fault that its user is told of, or, in
three cases only, with one that ends the tool. The path holds a null character; or the bytes are
no text; or the text is read up to an integer that is too long. -/
namespace DesignTokens

namespace TokenFile

def causeOf (failure : Json.Failure) : TokenFileCause :=
  if failure.fault = .longInteger then .longInteger else .invalidJson failure

def contentAt (files : Files) (path : String) : Except TokenFileCause Value :=
  ((files.read (Files.normal path)).mapError readCause).bind contentOf

theorem load_eq (files : Files) (path : String) :
    load files path = (contentAt files path).mapError (⟨Files.normal path, ·⟩) := rfl

/-- What a token file comes to. -/
inductive ComesTo (files : Files) (path : String) : Except TokenFileCause Value → Prop
  | unreadable {e : ReadError} (read : files.read (Files.normal path) = .error e) :
      ComesTo files path (.error (readCause e))
  | undecodable {bytes : ByteArray} (read : files.read (Files.normal path) = .ok bytes)
      (noText : ∀ text : String, text.toUTF8 ≠ bytes) : ComesTo files path (.error .undecodable)
  | invalid {text : String} {failure : Json.Failure}
      (read : files.read (Files.normal path) = .ok text.toUTF8)
      (parsed : Json.parse (Text.withLineFeeds text.toList) =
        .error failure) : ComesTo files path (.error (causeOf failure))
  | notAnObject {text : String} {v : Value}
      (read : files.read (Files.normal path) = .ok text.toUTF8)
      (parsed : Json.parse (Text.withLineFeeds text.toList) = .ok v)
      (other : ∀ fields, v ≠ .object fields) : ComesTo files path (.error .notAnObject)
  | object {text : String} {fields : Entries Value}
      (read : files.read (Files.normal path) = .ok text.toUTF8)
      (parsed : Json.parse (Text.withLineFeeds text.toList) =
        .ok (.object fields)) : ComesTo files path (.ok (.object fields))

theorem comesTo_contentAt (files : Files) (path : String) :
    ComesTo files path (contentAt files path) := by
  unfold contentAt contentOf
  cases read : files.read (Files.normal path) with
  | error e => exact .unreadable read
  | ok bytes =>
    dsimp only [Except.mapError, Except.bind]
    cases decoded : Text.decode? bytes with
    | none => exact .undecodable read (Text.decode?_eq_none_iff.mp decoded)
    | some s =>
      obtain ⟨text, rfl, rfl⟩ := Text.decode?_eq_some_iff.mp decoded
      dsimp only
      cases parsed : Json.parse (Text.withLineFeeds text.toList) with
      | error failure => exact .invalid read parsed
      | ok v =>
        cases v with
        | object fields => exact .object read parsed
        | _ => exact .notAnObject read parsed (by simp)

section

variable {files : Files} {path : String}

theorem ComesTo.contentAt_eq {result : Except TokenFileCause Value}
    (comes : ComesTo files path result) : contentAt files path = result := by
  unfold contentAt contentOf
  cases comes with
  | unreadable read =>
    rw [read]
    rfl
  | undecodable read noText =>
    rw [read]
    dsimp only [Except.mapError, Except.bind]
    rw [Text.decode?_eq_none_iff.mpr noText]
    rfl
  | invalid read parsed | object read parsed =>
    rw [read]
    dsimp only [Except.mapError, Except.bind]
    rw [Text.decode?_toUTF8]
    dsimp only
    rw [parsed]
    rfl
  | @notAnObject text v read parsed other =>
    rw [read]
    dsimp only [Except.mapError, Except.bind]
    rw [Text.decode?_toUTF8]
    dsimp only
    rw [parsed]
    cases v with
    | object fields => exact absurd rfl (other fields)
    | _ => rfl

theorem load_of_error {cause : TokenFileCause} (failed : contentAt files path = .error cause) :
    load files path = .error ⟨Files.normal path, cause⟩ := by
  rw [load_eq, failed]
  rfl

/-- What is loaded is an object. -/
theorem load_cases (files : Files) (path : String) :
    (∃ fields, load files path = .ok (.object fields)) ∨
      ∃ cause, contentAt files path = .error cause := by
  rw [load_eq]
  have comes := comesTo_contentAt files path
  generalize contentAt files path = content at comes
  cases comes with
  | object read parsed => exact .inl ⟨_, rfl⟩
  | _ => exact .inr ⟨_, rfl⟩

/-- Why a file makes the tool end without a message of its own. -/
inductive Unexplained (files : Files) (path : String) : TokenFileCause → Prop
  | nullInPath (inside : '\x00' ∈ path.toList) : Unexplained files path .nullInPath
  | undecodable {bytes : ByteArray} (read : files.read (Files.normal path) = .ok bytes)
      (noText : ∀ text : String, text.toUTF8 ≠ bytes) : Unexplained files path .undecodable
  | longInteger {text : String} (read : files.read (Files.normal path) = .ok text.toUTF8)
      (reaches : Json.ReachesLongInteger Numeral.bound (Text.withLineFeeds text.toList)) :
      Unexplained files path .longInteger

theorem read_normal_eq_nullInPath_iff :
    files.read (Files.normal path) = .error .nullInPath ↔ '\x00' ∈ path.toList := by
  rw [Files.read_eq_nullInPath_iff, Files.mem_normal (by decide) (by decide)]

theorem unexplained_iff {cause : TokenFileCause} :
    Unexplained files path cause ↔ contentAt files path = .error cause ∧
      CommandLine.fileComplaint? ⟨Files.normal path, cause⟩ = none := by
  constructor
  · intro unexplained
    cases unexplained with
    | nullInPath inside =>
      exact ⟨(ComesTo.unreadable (read_normal_eq_nullInPath_iff.mpr inside)).contentAt_eq, rfl⟩
    | undecodable read noText => exact ⟨(ComesTo.undecodable read noText).contentAt_eq, rfl⟩
    | longInteger read reaches =>
      obtain ⟨line, parsed⟩ := Json.parseWithin_eq_longInteger_iff.mpr reaches
      exact ⟨(ComesTo.invalid read parsed).contentAt_eq, rfl⟩
  · have comes := comesTo_contentAt files path
    generalize contentAt files path = content at comes
    rintro ⟨failed, silent⟩
    cases comes with
    | @unreadable e read =>
      obtain rfl := Except.error.inj failed
      cases e with
      | nullInPath => exact .nullInPath (read_normal_eq_nullInPath_iff.mp read)
      | _ => contradiction
    | undecodable read noText =>
      obtain rfl := Except.error.inj failed
      exact .undecodable read noText
    | @invalid text failure read parsed =>
      obtain rfl := Except.error.inj failed
      obtain ⟨fault, line⟩ := failure
      unfold causeOf at silent ⊢
      split at silent
      · next long =>
        obtain rfl : fault = .longInteger := long
        exact .longInteger read (Json.parseWithin_eq_longInteger_iff.mp ⟨line, parsed⟩)
      · contradiction
    | notAnObject read parsed other =>
      obtain rfl := Except.error.inj failed
      contradiction
    | object read parsed => cases failed

end

private theorem fileComplaint?_eq_some {error : TokenFileError}
    (told : CommandLine.fileComplaint? error ≠ none) :
    CommandLine.fileComplaint? error = some error.message := by
  unfold CommandLine.fileComplaint? at told ⊢
  split at told
  · contradiction
  · contradiction
  · contradiction
  · rfl

/-- A file is loaded as an object, or its user is told what is wrong with it, unless the path
holds a null character, the bytes are no text, or the text leads to an integer that is too
long. -/
theorem load_explained_iff (files : Files) (path : String) :
    ((∃ fields, load files path = .ok (.object fields)) ∨
      ∃ error, load files path = .error error ∧ error.source = Files.normal path ∧
        CommandLine.fileComplaint? error = some error.message) ↔
      ¬∃ cause, Unexplained files path cause := by
  constructor
  · rintro explained ⟨cause, unexplained⟩
    obtain ⟨failed, silent⟩ := unexplained_iff.mp unexplained
    rw [load_of_error failed] at explained
    obtain ⟨fields, loaded⟩ | ⟨error, same, -, told⟩ := explained
    · cases loaded
    · obtain rfl := Except.error.inj same
      exact nomatch silent.symm.trans told
  · intro explained
    obtain loaded | ⟨cause, failed⟩ := load_cases files path
    · exact .inl loaded
    · refine .inr ⟨_, load_of_error failed, rfl, fileComplaint?_eq_some fun silent => ?_⟩
      exact explained ⟨cause, unexplained_iff.mpr ⟨failed, silent⟩⟩

/-- A file of one byte that no text begins with. -/
def strayByte : Files := ⟨[(["t.json"], .file ⟨#[0xff]⟩)]⟩

theorem strayByte_unexplained :
    ¬((∃ tree, load strayByte "t.json" = .ok tree) ∨
      ∃ error, load strayByte "t.json" = .error error ∧
        (CommandLine.fileComplaint? error).isSome) := by
  have failed : load strayByte "t.json" = .error ⟨"t.json", .undecodable⟩ := by decide
  rw [failed]
  rintro (⟨tree, loaded⟩ | ⟨error, same, told⟩)
  · contradiction
  · obtain rfl := Except.error.inj same
    contradiction

end TokenFile

end DesignTokens
