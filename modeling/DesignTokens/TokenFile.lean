import DesignTokens.Action
import DesignTokens.Files
import DesignTokens.Json.Reader
import DesignTokens.Text.Decoding
import DesignTokens.Text.Quoted

/-! Token files: JSON files that hold one object. -/
namespace DesignTokens

inductive TokenFileCause where
  | notFound
  | isDirectory
  | notADirectory
  | nameTooLong
  | nullInPath
  | undecodable
  | longInteger
  | invalidJson (failure : Json.Failure)
  | notAnObject
deriving DecidableEq

/-- Why a file could not be loaded, with its path in its shortest spelling. -/
structure TokenFileError where
  source : String
  cause : TokenFileCause
deriving DecidableEq

namespace TokenFileError

def quotedSource (error : TokenFileError) : String :=
  String.ofList (Text.quoted error.source.toList)

def complaint (error : TokenFileError) : String :=
  match error.cause with
  | .notFound => "file not found"
  | .isDirectory => "[Errno 21] Is a directory: " ++ error.quotedSource
  | .notADirectory => "[Errno 20] Not a directory: " ++ error.quotedSource
  | .nameTooLong => "[Errno 36] File name too long: " ++ error.quotedSource
  | .nullInPath => "embedded null byte"
  | .undecodable => "not UTF-8"
  | .longInteger => "integer with too many digits"
  | .invalidJson failure => s!"invalid JSON: {failure.fault.message} (line {failure.line})"
  | .notAnObject => "top-level value must be a JSON object"

def message (error : TokenFileError) : String := s!"[{error.source}] {error.complaint}"

end TokenFileError

namespace TokenFile

def readCause : ReadError → TokenFileCause
  | .notFound => .notFound
  | .isDirectory => .isDirectory
  | .notADirectory => .notADirectory
  | .nameTooLong => .nameTooLong
  | .nullInPath => .nullInPath

def contentOf (bytes : ByteArray) : Except TokenFileCause Value := do
  let some text := Text.decode? bytes | throw .undecodable
  match Json.parse text with
  | .ok (.object fields) => return .object fields
  | .ok _ => throw .notAnObject
  | .error failure =>
    throw (if failure.fault = .longInteger then .longInteger else .invalidJson failure)

def load (files : Files) (path : String) : Except TokenFileError Value :=
  let content := ((files.read (Files.normal path)).mapError readCause).bind contentOf
  content.mapError (⟨Files.normal path, ·⟩)

/-- Loads files in order up to the first that fails. -/
def loadAll {σ : Type} (files : Files) (paths : List String) :
    Action σ TokenFileError (List Value) :=
  paths.mapM fun path => do
    let tree ← Action.ofExcept id (load files path)
    Action.report [.fileLoaded path]
    return tree

end TokenFile

end DesignTokens
