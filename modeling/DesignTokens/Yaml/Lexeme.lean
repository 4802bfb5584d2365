import DesignTokens.Numeral
import DesignTokens.Yaml.Scalar

/-! The lexemes of a YAML document. Indentation opens and closes blocks, and what
turns out to be a key when the colon after it is met gets its marks at the place
where it began. -/
namespace DesignTokens.Yaml

inductive Lexeme where
  | version (major minor : Nat)
  | tagHandle (handle start : String)
  | otherDirective
  | documentStart
  | documentEnd
  | sequenceStart
  | mappingStart
  | blockEnd
  | flowSequenceStart
  | flowSequenceEnd
  | flowMappingStart
  | flowMappingEnd
  | entry
  | comma
  | key
  | value
  | alias (name : String)
  | anchor (name : String)
  /-- A tag without a handle is written in full. -/
  | tag (handle : Option String) (rest : String)
  | scalar (text : List Char) (isPlain : Bool)
deriving DecidableEq

structure Cursor where
  rest : List Char
  index : Nat := 0
  line : Nat := 0
  column : Nat := 0

namespace Cursor

def byteOrderMark : Char := '\ufeff'

def past (cursor : Cursor) (c : Char) : Cursor :=
  let next := { cursor with rest := cursor.rest.drop 1, index := cursor.index + 1 }
  if isBreak c then { next with line := cursor.line + 1, column := 0 }
  else if c = byteOrderMark then next
  else { next with column := cursor.column + 1 }

def skip (cursor : Cursor) (count : Nat) : Cursor := (cursor.rest.take count).foldl past cursor

/-- The place from which just these characters follow. -/
def skipTo (cursor : Cursor) (rest : List Char) : Cursor :=
  cursor.skip (cursor.rest.length - rest.length)

end Cursor

/-- A place where a key may have begun. -/
structure PossibleKey where
  /-- How many lexemes stood before it. -/
  position : Nat
  required : Bool
  index : Nat
  line : Nat
  column : Nat

structure Scanner where
  cursor : Cursor
  lexemes : List Lexeme := []
  /-- The indentation of the open blocks, the innermost first. -/
  indents : List Nat := []
  /-- How many flow collections are open. -/
  flow : Nat := 0
  keyAllowed : Bool := true
  /-- By number of open flow collections. -/
  possibleKeys : List (Nat × PossibleKey) := []
  /-- Whether the end of the text was met. -/
  finished : Bool := false

/-- One step of scanning. -/
abbrev Scan := Except Failure Scanner

def orMalformed {α : Type} (a : Option α) : Except Failure α := a.elim (.error .malformed) .ok

namespace Scanner

def inFlow (s : Scanner) : Bool := 0 < s.flow

def indent (s : Scanner) : Int := (s.indents.head?.map Int.ofNat).getD (-1)

def emit (s : Scanner) (lexeme : Lexeme) : Scanner := { s with lexemes := s.lexemes ++ [lexeme] }

def advance (s : Scanner) (count : Nat) : Scanner := { s with cursor := s.cursor.skip count }

def moveTo (s : Scanner) (rest : List Char) : Scanner := { s with cursor := s.cursor.skipTo rest }

def allowKey (s : Scanner) (allowed : Bool) : Scanner := { s with keyAllowed := allowed }

/-- Spaces, comments and line breaks. After a line break outside of flows a key
may come. -/
def skipBlanks (fuel : Nat) (s : Scanner) : Scanner :=
  match fuel with
  | 0 => s
  | fuel + 1 =>
    let rest := s.cursor.rest.dropWhile isSpace
    let rest := if rest.head? = some '#' then rest.dropWhile (!isBreak ·) else rest
    match rest with
    | c :: after =>
      if isBreak c then ((s.moveTo after).allowKey (s.keyAllowed || !s.inFlow)).skipBlanks fuel
      else s.moveTo rest
    | [] => s.moveTo rest

/-- A key ends on the line it began on, within so many characters. -/
def longestKey : Nat := 1024

def isStale (s : Scanner) (key : PossibleKey) : Bool :=
  key.line ≠ s.cursor.line || key.index + longestKey < s.cursor.index

def dropStaleKeys (s : Scanner) : Scan :=
  if s.possibleKeys.any fun (_, key) => s.isStale key && key.required then .error .malformed
  else .ok { s with possibleKeys := s.possibleKeys.filter fun (_, key) => !s.isStale key }

/-- Gives up the key that may have begun among the collections open now. -/
def dropKey (s : Scanner) : Scan :=
  match s.possibleKeys.lookup s.flow with
  | some key =>
    if key.required then .error .malformed
    else .ok { s with possibleKeys := s.possibleKeys.filter (·.1 ≠ s.flow) }
  | none => .ok s

def noteKey (s : Scanner) : Scan :=
  if s.keyAllowed then do
    let s ← s.dropKey
    let key : PossibleKey := {
      position := s.lexemes.length
      required := !s.inFlow && s.indent = s.cursor.column
      index := s.cursor.index
      line := s.cursor.line
      column := s.cursor.column }
    return { s with possibleKeys := (s.flow, key) :: s.possibleKeys }
  else .ok s

/-- Closes the blocks that are indented further than the column. -/
def closeBlocks (s : Scanner) (column : Int) : Scanner :=
  if s.inFlow then s
  else
    let closed := s.indents.takeWhile fun (indent : Nat) => decide (column < indent)
    { s with
      indents := s.indents.drop closed.length
      lexemes := s.lexemes ++ closed.map fun _ => Lexeme.blockEnd }

/-- Opens a block where the indentation grows, its start put at a place among the
lexemes. -/
def openBlock (s : Scanner) (column position : Nat) (start : Lexeme) : Scanner :=
  if s.indent < column then
    { s with indents := column :: s.indents, lexemes := s.lexemes.insertIdx position start }
  else s

def isWordChar (c : Char) : Bool := c.isAlphanum || c = '-' || c = '_'

/-- A name, which is not empty, and what follows it. -/
def name? (s : List Char) : Option (String × List Char) :=
  match s.takeWhile isWordChar with
  | [] => none
  | word => some (String.ofList word, s.dropWhile isWordChar)

def natural (s : List Char) : Except Failure (Nat × List Char) :=
  match s.takeWhile Text.isDigit with
  | [] => .error .malformed
  | digits =>
    if Numeral.longest < digits.length then .error .notNumber
    else .ok (Text.digitsValue digits, s.dropWhile Text.isDigit)

def isAddressChar (c : Char) : Bool := c.isAlphanum || "-;/?:@&=+$,_.!~*'()[]".toList.contains c

def hexByte? (a b : Char) : Option UInt8 := do
  return UInt8.ofNat ((← Text.hexValue? a) * 16 + (← Text.hexValue? b))

/-- Text as in an address, where a percent sign starts a byte in hexadecimal. -/
def addressBytes : (fuel : Nat) → List Char → Option (List UInt8 × List Char)
  | 0, s => some ([], s)
  | fuel + 1, '%' :: a :: b :: rest => do
    let byte ← hexByte? a b
    let (bytes, rest) ← addressBytes fuel rest
    return (byte :: bytes, rest)
  | fuel + 1, c :: rest =>
    if c = '%' then none
    else if isAddressChar c then do
      let (bytes, rest) ← addressBytes fuel rest
      return ((String.singleton c).toUTF8.data.toList ++ bytes, rest)
    else some ([], c :: rest)
  | _, [] => some ([], [])

def address? (s : List Char) : Option (String × List Char) := do
  let (bytes, rest) ← addressBytes s.length s
  guard (bytes ≠ [])
  return (← String.fromUTF8? ⟨bytes.toArray⟩, rest)

/-- The handle of a tag, from one exclamation mark to the next. -/
def handle? (s : List Char) : Option (String × List Char) :=
  match s with
  | '!' :: rest =>
    let word := rest.takeWhile isWordChar
    match rest.drop word.length with
    | '!' :: rest => some (String.ofList ('!' :: word ++ ['!']), rest)
    | rest => if word = [] ∧ rest.head? = some ' ' then some ("!", rest) else none
  | _ => none

/-- A handle and the start of the tags that it stands for. -/
def tagHandle? (s : List Char) : Option (Lexeme × List Char) := do
  let (handle, rest) ← handle? (s.dropWhile isSpace)
  guard (rest.head? = some ' ')
  let (start, rest) ← address? (rest.dropWhile isSpace)
  return (.tagHandle handle start, ← restOfLine? rest)

def version (s : List Char) : Except Failure (Lexeme × List Char) := do
  let (major, rest) ← natural (s.dropWhile isSpace)
  if rest.head? ≠ some '.' then throw .malformed
  let (minor, rest) ← natural (rest.drop 1)
  return (.version major minor, ← orMalformed (restOfLine? rest))

def directive (s : List Char) : Except Failure (Lexeme × List Char) := do
  let (name, rest) ← orMalformed (name? s)
  if !endsWord rest || rest.head? = some '\t' then throw .malformed
  match name with
  | "YAML" => version rest
  | "TAG" => orMalformed (tagHandle? rest)
  | _ => return (.otherDirective, (rest.dropWhile (!isBreak ·)).drop 1)

/-- What may follow the name of an anchor. -/
def endsName (s : List Char) : Bool :=
  endsWord s || s.head?.any fun c => "?:,]%@".toList.contains c || c = '\x7d' || c = '\x60'

def anchor? (s : List Char) : Option (String × List Char) :=
  (name? s).filter fun (_, rest) => endsName rest

/-- Whether the word that starts here holds an exclamation mark. -/
def marksHandle (s : List Char) : Bool :=
  ((s.takeWhile fun c => c ≠ ' ' && !isBreak c).contains '!')

def tag? (s : List Char) : Option (Lexeme × List Char) := do
  let (lexeme, rest) ←
    match s with
    | '<' :: rest => do
      let (name, rest) ← address? rest
      guard (rest.head? = some '>')
      pure (Lexeme.tag none name, rest.drop 1)
    | rest =>
      if endsWord rest then pure (Lexeme.tag none "!", rest)
      else do
        let (handle, rest) ← if marksHandle rest then handle? ('!' :: rest) else pure ("!", rest)
        let (name, rest) ← address? rest
        pure (Lexeme.tag (some handle) name, rest)
  guard (endsWord rest && rest.head? ≠ some '\t')
  return (lexeme, rest)

/-- A directive or a document mark stands outside of all blocks. -/
def atMargin (s : Scanner) : Scan := do
  return (← (s.closeBlocks (-1)).dropKey).allowKey false

/-- A node that may be a key. -/
def node (s : Scanner) (lexeme : Lexeme) (rest : List Char) : Scan := do
  return (((← s.noteKey).allowKey false).moveTo rest).emit lexeme

def startFlow (s : Scanner) (lexeme : Lexeme) : Scan := do
  let s ← s.noteKey
  return (({ s with flow := s.flow + 1 }.allowKey true).advance 1).emit lexeme

def endFlow (s : Scanner) (lexeme : Lexeme) : Scan := do
  let s ← s.dropKey
  if s.flow = 0 then throw .malformed
  return (({ s with flow := s.flow - 1 }.allowKey false).advance 1).emit lexeme

/-- Outside of flows, what opens a block at this place must be allowed to. -/
def openHere (s : Scanner) (start : Lexeme) : Scan :=
  if s.inFlow then .ok s
  else if s.keyAllowed then .ok (s.openBlock s.cursor.column s.lexemes.length start)
  else .error .malformed

def takeEntry (s : Scanner) : Scan := do
  return (((← (← s.openHere .sequenceStart).dropKey).allowKey true).advance 1).emit .entry

def takeKey (s : Scanner) : Scan := do
  return (((← (← s.openHere .mappingStart).dropKey).allowKey !s.inFlow).advance 1).emit .key

def takeValue (s : Scanner) : Scan := do
  match s.possibleKeys.lookup s.flow with
  | some key =>
    let s := { s with
      possibleKeys := s.possibleKeys.filter (·.1 ≠ s.flow)
      lexemes := s.lexemes.insertIdx key.position .key }
    let s := if s.inFlow then s else s.openBlock key.column key.position .mappingStart
    return ((s.allowKey false).advance 1).emit .value
  | none =>
    let s ← (← s.openHere .mappingStart).dropKey
    return ((s.allowKey !s.inFlow).advance 1).emit .value

def takeBlockScalar (s : Scanner) (folds : Bool) (rest : List Char) : Scan := do
  let s ← s.dropKey
  let (style, rest) ← orMalformed (blockStyle? folds rest)
  let (text, rest) := blockText style s.indent (← orMalformed (restOfLine? rest))
  return ((s.allowKey true).moveTo rest).emit (.scalar text false)

def startsPlain (s : Scanner) (c : Char) (rest : List Char) : Bool :=
  if c = '-' then !endsWord rest
  else if c = '?' ∨ c = ':' then !s.inFlow && !endsWord rest
  else !(isSpaceOrTab c || isFlowMark c || "#&*!|>'\"%@".toList.contains c || c = '\x60')

def takePlain (s : Scanner) : Scan := do
  let plain := plainText s.inFlow (s.indent + 1).toNat s.cursor.rest
  return (((← s.noteKey).allowKey plain.brokeLine).moveTo plain.rest).emit (.scalar plain.text true)

def take (s : Scanner) (c : Char) (rest : List Char) : Scan := do
  let atLineStart := s.cursor.column = 0
  if c = '%' ∧ atLineStart then
    let s ← s.atMargin
    let (lexeme, rest) ← directive rest
    return (s.moveTo rest).emit lexeme
  else if atLineStart && startsMark '-' (c :: rest) then
    return ((← s.atMargin).advance 3).emit .documentStart
  else if atLineStart && startsMark '.' (c :: rest) then
    return ((← s.atMargin).advance 3).emit .documentEnd
  else if c = '[' then s.startFlow .flowSequenceStart
  else if c = '\x7b' then s.startFlow .flowMappingStart
  else if c = ']' then s.endFlow .flowSequenceEnd
  else if c = '\x7d' then s.endFlow .flowMappingEnd
  else if c = ',' then return ((← (s.allowKey true).dropKey).advance 1).emit .comma
  else if c = '-' ∧ endsWord rest then s.takeEntry
  else if c = '?' ∧ (s.inFlow ∨ endsWord rest) then s.takeKey
  else if c = ':' ∧ (s.inFlow ∨ endsWord rest) then s.takeValue
  else if c = '*' then
    let (name, rest) ← orMalformed (anchor? rest)
    s.node (.alias name) rest
  else if c = '&' then
    let (name, rest) ← orMalformed (anchor? rest)
    s.node (.anchor name) rest
  else if c = '!' then
    let (lexeme, rest) ← orMalformed (tag? rest)
    s.node lexeme rest
  else if (c = '|' ∨ c = '>') ∧ !s.inFlow then s.takeBlockScalar (c = '>') rest
  else if c = '\'' ∨ c = '"' then
    let s ← s.noteKey
    let (text, rest) ← quoted c rest
    return ((s.allowKey false).moveTo rest).emit (.scalar text false)
  else if s.startsPlain c rest then s.takePlain
  else throw .malformed

/-- Takes the next lexeme, or meets the end of the text. -/
def next (s : Scanner) : Scan := do
  let s ← (s.skipBlanks (s.cursor.rest.length + 1)).dropStaleKeys
  let s := s.closeBlocks s.cursor.column
  match s.cursor.rest with
  | c :: rest => s.take c rest
  | [] => return { ← s.atMargin with possibleKeys := [], finished := true }

/-- How many lexemes have their final places: a key mark may still be put before the
first possible key. -/
def settled (s : Scanner) : Nat :=
  s.possibleKeys.foldl (fun least key => min least key.2.position) s.lexemes.length

end Scanner

/-- The lexemes at the start of a text, and why there are no more if that is not for
the end of the text. -/
structure Lexemes where
  lexemes : List Lexeme
  failure : Option Failure

/-- Every step takes a character, so their number bounds the number of steps. Of a scan
that fails, the lexemes that were settled before the failing step stay. -/
def scanOn : (fuel settled : Nat) → Scanner → Lexemes
  | 0, _, _ => ⟨[], some .malformed⟩
  | fuel + 1, settled, s =>
    if s.finished then ⟨s.lexemes, none⟩
    else
      match s.dropStaleKeys with
      | .error failure => ⟨s.lexemes.take settled, some failure⟩
      | .ok s =>
        match s.next with
        | .error failure => ⟨s.lexemes.take s.settled, some failure⟩
        | .ok next => scanOn fuel s.settled next

/-- Controls, among them the null character, cannot stand in a document. -/
def isAllowed (c : Char) : Bool :=
  let n := c.toNat
  n = 0x9 ∨ n = 0xa ∨ n = 0xd ∨ (0x20 ≤ n ∧ n ≤ 0x7e) ∨ n = 0x85 ∨
    (0xa0 ≤ n ∧ n ≠ 0xfffe ∧ n ≠ 0xffff)

def scan (text : List Char) : Lexemes :=
  if text.all isAllowed then
    let cursor : Cursor := { rest := text }
    let cursor := if text.head? = some Cursor.byteOrderMark then cursor.skip 1 else cursor
    scanOn (text.length + 2) 0 { cursor }
  else ⟨[], some .malformed⟩

end DesignTokens.Yaml
