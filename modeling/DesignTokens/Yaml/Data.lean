import DesignTokens.Datum.Agreement
import DesignTokens.Text.Base64
import DesignTokens.Yaml.Node
import DesignTokens.Yaml.Number
import DesignTokens.Yaml.Time

/-! Data built from the nodes of a document. Every node becomes one object. A container
is empty at first and filled in its turn, so that it can come again inside of itself. -/
namespace DesignTokens.Yaml

inductive Object where
  | plain (datum : Datum)
  | list (items : List NodeId)
  | pairs (entries : List (NodeId × NodeId))
  | set (members : List Datum)
  | mapping (entries : List (Datum × NodeId))

namespace Object

def isTruthy : Object → Bool
  | plain datum => datum.isTruthy
  | list items => !items.isEmpty
  | pairs entries => !entries.isEmpty
  | set members => !members.isEmpty
  | mapping entries => !entries.isEmpty

end Object

structure Building where
  nodes : Array Node
  /-- By the numbers of their nodes. -/
  objects : Array (Option Object)
  /-- The containers that are to be filled, the next one first. -/
  waiting : List NodeId := []

abbrev Build := StateT Building (Except Failure)

namespace Build

def malformed {α : Type} : Build α := throw .malformed

def nodeAt (id : NodeId) : Build Node := do
  let some node := (← get).nodes[id]? | malformed
  return node

def hasObject (id : NodeId) : Build Bool := do return ((← get).objects.getD id none).isSome

def record (id : NodeId) (object : Object) : Build Unit := modify fun building =>
  { building with objects := building.objects.setIfInBounds id (some object) }

/-- Records an empty container, to be filled after those that wait already. -/
def postpone (id : NodeId) (object : Object) : Build Unit := do
  record id object
  modify fun building => { building with waiting := building.waiting ++ [id] }

def kindOf (id : NodeId) : Build Kind := do return (← nodeAt id).kind

def entriesOf (id : NodeId) : Build (List (NodeId × NodeId)) := do
  match (← nodeAt id).content with
  | .mapping entries => return entries
  | _ => malformed

def itemsOf (id : NodeId) : Build (List NodeId) := do
  match (← nodeAt id).content with
  | .list items => return items
  | _ => malformed

def firstWithKey? (kind : Kind) (entries : List (NodeId × NodeId)) :
    Build (Option (NodeId × NodeId)) :=
  entries.findM? fun entry => do return (← kindOf entry.1) = kind

/-- The text of a scalar, or of what a mapping gives as its default. A way through more
mappings than there are does not end. -/
def textOf : (fuel : Nat) → NodeId → Build (List Char)
  | 0, _ => throw .endless
  | fuel + 1, id => do
    match (← nodeAt id).content with
    | .scalar text => return text
    | .mapping entries =>
      match ← firstWithKey? .default entries with
      | some (_, item) => textOf fuel item
      | none => malformed
    | .list _ => malformed

def trueWords : List String := ["yes", "true", "on"]

def falseWords : List String := ["no", "false", "off"]

def truth (text : List Char) : Except Failure Datum :=
  let word := (String.ofList text).toLower
  if word ∈ trueWords then .ok (.bool true)
  else if word ∈ falseWords then .ok (.bool false)
  else .error .notTruth

/-- What is no number has a mark of its own, unless it is given by the word for it. -/
def floatOf (id : NodeId) (text : List Char) : Except Failure Datum := do
  return .ofFloat (if isNaNWord text then 0 else id + 1) (← decimal text)

def bytesOf (text : List Char) : Except Failure Datum :=
  if text.all (·.toNat < 0x80) then
    (Text.Base64.decode? text).elim (.error .malformed) fun bytes => .ok (.bytes bytes)
  else .error .malformed

def timestampOf (content : Content) (text : List Char) : Except Failure Datum :=
  match content with
  | .mapping _ => .error .timestampInMapping
  | _ => timestamp text

def scalar (id : NodeId) : Build Datum := do
  let node ← nodeAt id
  let text : Build (List Char) := do textOf ((← get).nodes.size + 1) id
  match node.kind with
  | .null =>
    let _ ← text
    return .null
  | .bool => truth (← text)
  | .int => return .int (← integer (← text))
  | .float => floatOf id (← text)
  | .str => return .str (String.ofList (← text))
  | .binary => bytesOf (← text)
  | .timestamp => timestampOf node.content (← text)
  | _ => malformed

/-- Makes the object of a node if there is none yet. -/
def start (id : NodeId) : Build Unit := do
  if ← hasObject id then return
  match ← kindOf id with
  | .list => postpone id (.list [])
  | .orderedMapping | .pairs => postpone id (.pairs [])
  | .set => postpone id (.set [])
  | .mapping => postpone id (.mapping [])
  | _ => record id (.plain (← scalar id))

def setEntries (id : NodeId) (entries : List (NodeId × NodeId)) : Build Unit :=
  modify fun building => { building with
    nodes := building.nodes.modify id fun node => { node with content := .mapping entries } }

/-- In the keys of a mapping that is merged, the mark for a default is text. -/
def readAsText (key : NodeId) : Build Unit := modify fun building => { building with
  nodes := building.nodes.modify key fun node =>
    if node.kind = .default then { node with kind := .str } else node }

/-- Puts in front of the entries of a mapping those that its merge marks bring in, where
those of an earlier mapping in a list count over those of a later one. Every merge mark
is taken out before what it brings in is looked at, so their number bounds the way. -/
def merge : (fuel : Nat) → (merged : List (NodeId × NodeId)) → NodeId → Build Unit
  | 0, _, _ => return
  | fuel + 1, merged, id => do
    let entries ← entriesOf id
    match ← firstWithKey? .merge entries with
    | none =>
      entries.forM fun entry => readAsText entry.1
      setEntries id (merged ++ entries)
    | some mark =>
      setEntries id (entries.erase mark)
      let more ← match (← nodeAt mark.2).content with
        | .mapping _ => do
          merge fuel [] mark.2
          entriesOf mark.2
        | .list items => do
          let lists ← items.mapM fun item => do
            let _ ← entriesOf item
            merge fuel [] item
            entriesOf item
          pure lists.reverse.flatten
        | .scalar _ => malformed
      merge fuel (merged ++ more) id

def mergeMarks : Build Nat := do return ((← get).nodes.toList.map entryCount).foldl (· + ·) 1
where
  entryCount (node : Node) : Nat :=
    match node.content with
    | .mapping entries => entries.length
    | _ => 0

def keyAt (id : NodeId) : Build Datum := do
  start id
  match (← get).objects.getD id none with
  | some (.plain datum) => return datum
  | _ => malformed

def mappingOf (id : NodeId) : Build (List (Datum × NodeId)) := do
  let _ ← entriesOf id
  merge (← mergeMarks) [] id
  (← entriesOf id).foldlM (fun entries entry => do
    let key ← keyAt entry.1
    start entry.2
    return Datum.putEntry key entry.2 entries) []

/-- A mapping with one entry. -/
def pairOf (id : NodeId) : Build (NodeId × NodeId) := do
  match ← entriesOf id with
  | [entry] =>
    start entry.1
    start entry.2
    return entry
  | _ => malformed

def fill (id : NodeId) : Build Unit := do
  match ← kindOf id with
  | .list =>
    let items ← itemsOf id
    items.forM start
    record id (.list items)
  | .orderedMapping | .pairs => record id (.pairs (← (← itemsOf id).mapM pairOf))
  | .set => record id (.set ((← mappingOf id).map Prod.fst))
  | .mapping => record id (.mapping (← mappingOf id))
  | _ => return

/-- Fills the containers that wait. Every node waits at most once. -/
def fillAll : (fuel : Nat) → Build Unit
  | 0 => return
  | fuel + 1 => do
    match (← get).waiting with
    | [] => return
    | id :: rest =>
      modify fun building => { building with waiting := rest }
      fill id
      fillAll fuel

end Build

/-- Objects by their numbers, and the one that is the data of the document. -/
structure Data where
  objects : Array (Option Object)
  root : NodeId

namespace Data

def objectAt (data : Data) (id : NodeId) : Object := (data.objects.getD id none).getD (.plain .null)

/-- An object with all its parts, from inside of some containers. -/
def datumWithin (data : Data) : (fuel : Nat) → (around : List NodeId) → NodeId → Datum
  | 0, _, _ => .null
  | fuel + 1, around, id =>
    let part := datumWithin data fuel (id :: around)
    match data.objectAt id with
    | .plain datum => datum
    | .set members => .set members
    | .list items => if id ∈ around then .again false else .list (items.map part)
    | .pairs entries =>
      if id ∈ around then .again false
      else .list (entries.map fun (first, second) => .pair (part first) (part second))
    | .mapping entries =>
      if id ∈ around then .again true
      else .mapping (entries.map fun (key, item) => (key, part item))

def datum (data : Data) (id : NodeId) : Datum := data.datumWithin (data.objects.size + 1) [] id

def ofDocument (document : Document) : Except Failure Data := do
  let build : Build Unit := do
    Build.start document.root
    Build.fillAll (document.nodes.size + 1)
  let start : Building := ⟨document.nodes, Array.replicate document.nodes.size none, []⟩
  let (_, building) ← build.run start
  return ⟨building.objects, document.root⟩

end Data

def parse (text : List Char) : Except Failure Data := do Data.ofDocument (← Document.ofText text)

end DesignTokens.Yaml
