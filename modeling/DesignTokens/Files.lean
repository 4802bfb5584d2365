import DesignTokens.Tree

/-! A directory tree of files as a value, with paths from its working directory. -/
namespace DesignTokens

inductive FileEntry where
  | file (bytes : ByteArray)
  | directory

structure Files where
  /-- By the names that lead there. -/
  entries : List (List String × FileEntry)

inductive ReadError where
  | notFound
  | isDirectory
  | notADirectory
  | nameTooLong
  | nullInPath
deriving DecidableEq

inductive WriteError where
  | isDirectory
  | notADirectory
  | fileExists
  | nameTooLong
deriving DecidableEq

namespace Files

/-- The names on the way along a path. Empty names and single dots lead nowhere. -/
def steps (path : String) : List String :=
  ((splitAtSlashes path.toList).map String.ofList).filter fun name => name ≠ "" ∧ name ≠ "."

/-- Two slashes at the start are not one, but three or more are. -/
def rootOf (path : String) : String :=
  match path.toList.takeWhile (· = '/') with
  | [] => ""
  | ['/', '/'] => "//"
  | _ => "/"

/-- The shortest spelling of a path. -/
def normal (path : String) : String :=
  match rootOf path, steps path with
  | "", [] => "."
  | root, names => root ++ joinPath names

/-- The part of a name from its last point on, unless the point is its first or
last character. -/
def extensionOf (name : List Char) : List Char :=
  let behind := name.reverse.takeWhile (· ≠ '.')
  if behind = [] ∨ name.length ≤ behind.length + 1 then [] else '.' :: behind.reverse

/-- The path with another extension. A path without names has none to change. -/
def withExtension? (path extension : String) : Option String :=
  match (steps path).getLast? with
  | none => none
  | some name =>
    let stem := name.toList.take (name.length - (extensionOf name.toList).length)
    some (rootOf path ++ joinPath ((steps path).dropLast ++ [String.ofList stem ++ extension]))

/-- Where a path leads: the names from the working directory on, or from the root. -/
abbrev Place := List String

def root : String := "/"

def parent : String := ".."

/-- Above the working directory, parents are names of their own. -/
def turn (here : Place) (name : String) : Place :=
  if name ≠ parent then here ++ [name]
  else if here = [root] then here
  else if here.all (· = parent) then here ++ [parent]
  else here.dropLast

def names (path : String) : List String :=
  if rootOf path = "" then steps path else root :: steps path

def placeOf (path : String) : Place := (names path).foldl turn []

/-- The places on the way along a path, and the one it leads to. -/
def placesOn (path : String) : List Place :=
  (names path).foldl (fun passed name => passed ++ [turn (passed.getLastD []) name]) []

def pathOf (place : Place) : String :=
  match place with
  | first :: rest => if first = root then root ++ joinPath rest else joinPath place
  | [] => "."

def ofPairs (pairs : List (String × FileEntry)) : Files :=
  ⟨pairs.map fun (path, entry) => (placeOf path, entry)⟩

def entry? (files : Files) (place : Place) : Option FileEntry := files.entries.lookup place

def isFile (files : Files) (place : Place) : Bool :=
  match files.entry? place with
  | some (.file _) => true
  | _ => false

/-- What holds something is a directory, whether or not it is listed. -/
def isDirectory (files : Files) (place : Place) : Bool :=
  place.all (· = parent) || place = [root] || files.entries.any fun (other, entry) =>
    match entry with
    | .directory => place.isPrefixOf other
    | .file _ => place.isPrefixOf other && place ≠ other

/-- In bytes. -/
def longestName : Nat := 255

def longestPath : Nat := 4095

/-- Follows names from a directory. -/
def walkTo (files : Files) (here : Place) : List String → Except ReadError Place
  | [] => .ok here
  | name :: rest =>
    if files.isFile here then .error .notADirectory
    else if !files.isDirectory here then .error .notFound
    else if longestName < name.utf8ByteSize then .error .nameTooLong
    else walkTo files (turn here name) rest

/-- A path that ends in a slash or in a single dot leads to a directory. -/
def wantsDirectory (path : String) : Bool :=
  ((splitAtSlashes path.toList).getLast?).any fun last => last = [] ∨ last = ['.']

/-- Where a path that may be read leads. -/
def follow (files : Files) (path : String) : Except ReadError Place := do
  if path.toList.contains '\x00' then throw .nullInPath
  if path = "" then throw .notFound
  if longestPath < path.utf8ByteSize then throw .nameTooLong
  let place ← files.walkTo [] (names path)
  if wantsDirectory path && files.isFile place then throw .notADirectory
  return place

def read (files : Files) (path : String) : Except ReadError ByteArray := do
  let place ← files.follow path
  match files.entry? place with
  | some (.file bytes) => return bytes
  | _ => throw (if files.isDirectory place then .isDirectory else .notFound)

/-- Makes the directories that are not there yet along names from a directory. -/
def makeAlong (files : Files) (here : Place) : List String → Except WriteError Files
  | [] => .ok files
  | name :: rest =>
    let next := turn here name
    if longestName < name.utf8ByteSize then .error .nameTooLong
    else if files.isFile next then .error (if rest = [] then .fileExists else .notADirectory)
    else if files.isDirectory next then makeAlong files next rest
    else makeAlong ⟨files.entries ++ [(next, FileEntry.directory)]⟩ next rest

/-- Makes the directories that lead to what a path names. -/
def makeParents (files : Files) (path : String) : Except WriteError Files :=
  if longestPath < path.utf8ByteSize then .error .nameTooLong
  else files.makeAlong [] (names path).dropLast

/-- Writes a file, making the directories that lead to it. -/
def write (files : Files) (path : String) (text : String) : Except WriteError Files := do
  let files ← files.makeParents path
  let place := placeOf path
  if files.isDirectory place then throw .isDirectory
  if (names path).any (longestName < ·.utf8ByteSize) then throw .nameTooLong
  return ⟨(place, .file text.toUTF8) :: files.entries.filter (·.1 ≠ place)⟩

end Files

end DesignTokens
