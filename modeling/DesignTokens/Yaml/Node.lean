import DesignTokens.Yaml.Kind
import DesignTokens.Yaml.Lexeme

/-! The nodes of a YAML document, read from its lexemes. They are stored under numbers,
and an alias is the number of the node that its anchor names, which may be a node that
it stands in. -/
namespace DesignTokens.Yaml

abbrev NodeId := Nat

inductive Content where
  | scalar (text : List Char)
  | list (items : List NodeId)
  | mapping (entries : List (NodeId × NodeId))

structure Node where
  kind : Kind
  content : Content

namespace Node

/-- The mark that stands for no tag. -/
def plainTag : String := "!"

structure Reading where
  lexemes : Lexemes
  nodes : Array Node := #[]
  anchors : List (String × NodeId) := []
  handles : List (String × String) := [("!", "!"), ("!!", Kind.standardStart)]

abbrev Read := StateT Reading (Except Failure)

def malformed {α : Type} : Read α := throw .malformed

def require (condition : Bool) : Read Unit := unless condition do malformed

/-- The next lexeme, or nothing at the end of the text. -/
def peek : Read (Option Lexeme) := do
  let ⟨lexemes, failure⟩ := (← get).lexemes
  match lexemes.head?, failure with
  | none, some failure => throw failure
  | lexeme, _ => return lexeme

def drop : Read Unit := modify fun reading =>
  { reading with lexemes.lexemes := reading.lexemes.lexemes.drop 1 }

/-- Takes the lexeme if it comes next. -/
def accept (lexeme : Lexeme) : Read Bool := do
  if (← peek) = some lexeme then
    drop
    return true
  else return false

def expect (lexeme : Lexeme) : Read Unit := do require (← accept lexeme)

/-- An anchor, and a tag with its handle. -/
structure Properties where
  anchor : Option String := none
  tag : Option (Option String × String) := none

def takeAnchor (properties : Properties) : Read Properties := do
  if properties.anchor.isSome then return properties
  match ← peek with
  | some (.anchor name) =>
    drop
    return { properties with anchor := some name }
  | _ => return properties

def takeTag (properties : Properties) : Read Properties := do
  match ← peek with
  | some (.tag handle rest) =>
    drop
    return { properties with tag := some (handle, rest) }
  | _ => return properties

/-- An anchor and a tag, in either order. -/
def takeProperties : Read Properties := do takeAnchor (← takeTag (← takeAnchor {}))

def fullTag : Option String × String → Read String
  | (none, tag) => return tag
  | (some handle, rest) => do
    match (← get).handles.lookup handle with
    | some start => return start ++ rest
    | none => malformed

/-- What is known of a node before its content. -/
structure Head where
  anchor : Option String
  tag : Option String

def headOf (properties : Properties) : Read Head := do
  return ⟨properties.anchor, ← properties.tag.mapM fullTag⟩

def Head.isEmpty (head : Head) : Bool := head.anchor.isNone && head.tag.isNone

/-- The kind that the tag names; without one, the kind that the content has. -/
def Head.kind (head : Head) (implied : Kind) : Kind :=
  match head.tag with
  | none => implied
  | some tag => if tag = plainTag then implied else .ofTag tag

def Head.scalarKind (head : Head) (text : List Char) (isPlain : Bool) : Kind :=
  head.kind (if isPlain || head.tag.isSome then .ofText text else .str)

/-- Stores a node. Its anchor names it from now on, and names no other node. -/
def store (anchor : Option String) (node : Node) : Read NodeId := do
  let reading ← get
  let id := reading.nodes.size
  set { reading with nodes := reading.nodes.push node }
  if let some name := anchor then
    require (reading.anchors.lookup name).isNone
    modify fun reading => { reading with anchors := (name, id) :: reading.anchors }
  return id

def storeScalar (head : Head) (text : List Char) (isPlain : Bool) : Read NodeId :=
  store head.anchor ⟨head.scalarKind text isPlain, .scalar text⟩

/-- What is written as nothing. -/
def empty : Read NodeId := store none ⟨.null, .scalar []⟩

def fill (id : NodeId) (content : Content) : Read Unit := modify fun reading =>
  { reading with nodes := reading.nodes.modify id fun node => { node with content } }

/-- A list whose anchor can be used in its items. -/
def storeList (head : Head) (items : Read (List NodeId)) : Read NodeId := do
  let id ← store head.anchor ⟨head.kind .list, .list []⟩
  fill id (.list (← items))
  return id

def storeMapping (head : Head) (entries : Read (List (NodeId × NodeId))) : Read NodeId := do
  let id ← store head.anchor ⟨head.kind .mapping, .mapping []⟩
  fill id (.mapping (← entries))
  return id

def aliased (name : String) : Read NodeId := do
  match (← get).anchors.lookup name with
  | some id => return id
  | none => malformed

/-- Where a node stands decides what it can be. -/
inductive Context where
  | flow
  | block
  /-- Entries without a start mark of their own may follow a key. -/
  | afterKey
deriving DecidableEq

def nextIsOneOf (lexemes : List Lexeme) : Read Bool := do
  return (← peek).any lexemes.contains

mutual

def node (context : Context) : (fuel : Nat) → Read NodeId
  | 0 => malformed
  | fuel + 1 => do
    if let some (.alias name) ← peek then
      drop
      aliased name
    else nodeWith (← headOf (← takeProperties)) context fuel

def nodeWith (head : Head) (context : Context) : (fuel : Nat) → Read NodeId
  | 0 => malformed
  | fuel + 1 => do
    match ← peek with
    | some .entry =>
      if context = .afterKey then storeList head (looseEntries fuel)
      else if head.isEmpty then malformed
      else storeScalar head [] true
    | some (.scalar text isPlain) =>
      drop
      storeScalar head text isPlain
    | some .flowSequenceStart =>
      drop
      storeList head (flowItems true fuel)
    | some .flowMappingStart =>
      drop
      storeMapping head (flowEntries true fuel)
    | some .sequenceStart =>
      if context = .flow then malformed
      drop
      storeList head (blockItems fuel)
    | some .mappingStart =>
      if context = .flow then malformed
      drop
      storeMapping head (blockEntries fuel)
    | _ => if head.isEmpty then malformed else storeScalar head [] true

/-- A node, or nothing where the next lexeme is one of those that end it. -/
def nodeUnless (context : Context) (ends : List Lexeme) : (fuel : Nat) → Read NodeId
  | 0 => malformed
  | fuel + 1 => do
    if ← nextIsOneOf ends then empty else node context fuel

def looseEntries : (fuel : Nat) → Read (List NodeId)
  | 0 => malformed
  | fuel + 1 => do
    if ← accept .entry then
      let item ← nodeUnless .block [.entry, .key, .value, .blockEnd] fuel
      return item :: (← looseEntries fuel)
    else return []

def blockItems : (fuel : Nat) → Read (List NodeId)
  | 0 => malformed
  | fuel + 1 => do
    if ← accept .entry then
      let item ← nodeUnless .block [.entry, .blockEnd] fuel
      return item :: (← blockItems fuel)
    else
      expect .blockEnd
      return []

def blockEntries : (fuel : Nat) → Read (List (NodeId × NodeId))
  | 0 => malformed
  | fuel + 1 => do
    if ← accept .key then
      let key ← nodeUnless .afterKey [.key, .value, .blockEnd] fuel
      let item ← blockValue fuel
      return (key, item) :: (← blockEntries fuel)
    else
      expect .blockEnd
      return []

def blockValue : (fuel : Nat) → Read NodeId
  | 0 => malformed
  | fuel + 1 => do
    if ← accept .value then nodeUnless .afterKey [.key, .value, .blockEnd] fuel else empty

def flowValue (stop : Lexeme) : (fuel : Nat) → Read NodeId
  | 0 => malformed
  | fuel + 1 => do
    if ← accept .value then nodeUnless .flow [.comma, stop] fuel else empty

/-- The items of a flow. A key with its value is an item that is a mapping. -/
def flowItems (first : Bool) : (fuel : Nat) → Read (List NodeId)
  | 0 => malformed
  | fuel + 1 => do
    if ← accept .flowSequenceEnd then return []
    unless first do expect .comma
    if ← accept .flowSequenceEnd then return []
    if ← accept .key then
      let item ← storeMapping ⟨none, none⟩ do
        let key ← nodeUnless .flow [.value, .comma, .flowSequenceEnd] fuel
        return [(key, ← flowValue .flowSequenceEnd fuel)]
      return item :: (← flowItems false fuel)
    else
      let item ← node .flow fuel
      return item :: (← flowItems false fuel)

def flowEntries (first : Bool) : (fuel : Nat) → Read (List (NodeId × NodeId))
  | 0 => malformed
  | fuel + 1 => do
    if ← accept .flowMappingEnd then return []
    unless first do expect .comma
    if ← accept .flowMappingEnd then return []
    if ← accept .key then
      let key ← nodeUnless .flow [.value, .comma, .flowMappingEnd] fuel
      let item ← flowValue .flowMappingEnd fuel
      return (key, item) :: (← flowEntries false fuel)
    else
      let key ← node .flow fuel
      let item ← empty
      return (key, item) :: (← flowEntries false fuel)

end

/-- The directives before a document. One version, of the first kind, and every
handle once. -/
def directives : (fuel : Nat) → (hasVersion : Bool) → (handles : List (String × String)) →
    Read (List (String × String))
  | 0, _, _ => malformed
  | fuel + 1, hasVersion, handles => do
    match ← peek with
    | some (.version major _) =>
      require (!hasVersion && major = 1)
      drop
      directives fuel true handles
    | some (.tagHandle handle start) =>
      require (handles.lookup handle).isNone
      drop
      directives fuel hasVersion ((handle, start) :: handles)
    | some .otherDirective =>
      drop
      directives fuel hasVersion handles
    | _ => return handles

def isDirective : Lexeme → Bool
  | .version .. | .tagHandle .. | .otherDirective => true
  | _ => false

def startDocument (fuel : Nat) : Read Unit := do
  let handles ← directives fuel false []
  modify fun reading => { reading with handles := handles ++ reading.handles }
  expect .documentStart

def root (fuel : Nat) : Read NodeId := do
  match ← peek with
  | none => empty
  | some lexeme =>
    if lexeme = .documentStart ∨ isDirective lexeme then
      startDocument fuel
      match ← peek with
      | none | some .documentStart | some .documentEnd => empty
      | some lexeme => if isDirective lexeme then empty else node .block fuel
    else node .block fuel

def dropDocumentEnds : (fuel : Nat) → Read Unit
  | 0 => return
  | fuel + 1 => do if ← accept .documentEnd then dropDocumentEnds fuel

/-- The only document of a text; a text without one counts as an empty one. -/
def document (fuel : Nat) : Read NodeId := do
  let root ← root fuel
  dropDocumentEnds fuel
  if (← peek).isSome then
    startDocument fuel
    malformed
  return root

end Node

/-- The nodes of a document, and the one that all the others are found from. -/
structure Document where
  nodes : Array Node
  root : NodeId

/-- Every lexeme is passed on through at most five of the readers. -/
def Document.ofText (text : List Char) : Except Failure Document := do
  let lexemes := scan text
  let (root, reading) ← (Node.document (5 * lexemes.lexemes.length + 5)).run { lexemes }
  return ⟨reading.nodes, root⟩

end DesignTokens.Yaml
