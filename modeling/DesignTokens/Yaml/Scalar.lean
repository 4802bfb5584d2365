import DesignTokens.Text.Digit
import DesignTokens.Text.Surrogate
import DesignTokens.Yaml.Failure

/-! The texts of scalars: quoted, plain, and in blocks. A line break inside a quoted
or plain scalar is folded: it counts as a space, and each empty line after it as
one line break. -/
namespace DesignTokens.Yaml

def isBreak (c : Char) : Bool := c = '\n' ∨ c = '\x85' ∨ c = '\u2028' ∨ c = '\u2029'

def isSpace (c : Char) : Bool := c = ' '

def isSpaceOrTab (c : Char) : Bool := c = ' ' ∨ c = '\t'

/-- What ends a line, also the end of the text. -/
def endsLine (s : List Char) : Bool := s.head?.all isBreak

def endsWord (s : List Char) : Bool := s.head?.all fun c => isSpaceOrTab c || isBreak c

/-- Line breaks that only separate lines are read as line feeds. -/
def breakChar (c : Char) : Char := if c = '\x85' then '\n' else c

/-- Three dashes or points on their own at the start of a line. -/
def startsMark (mark : Char) : List Char → Bool
  | a :: b :: c :: rest => a = mark && b = mark && c = mark && endsWord rest
  | _ => false

def startsDocumentMark (s : List Char) : Bool := startsMark '-' s || startsMark '.' s

/-- A line break with the empty lines that follow it. -/
def folded (first : Char) (more : List Char) : List Char :=
  if breakChar first = '\n' then (if more = [] then [' '] else more) else breakChar first :: more

def escapes : List (Char × Char) := [
  ('0', '\x00'), ('a', '\x07'), ('b', '\x08'), ('t', '\t'), ('\t', '\t'), ('n', '\n'),
  ('v', '\x0b'), ('f', '\x0c'), ('r', '\r'), ('e', '\x1b'), (' ', ' '), ('"', '"'),
  ('\\', '\\'), ('/', '/'), ('N', '\x85'), ('_', '\xa0'), ('L', '\u2028'), ('P', '\u2029')]

def escapeLength? : Char → Option Nat
  | 'x' => some 2
  | 'u' => some 4
  | 'U' => some 8
  | _ => none

/-- Some text that was read, and what follows it. -/
abbrev Scanned := Except Failure (List Char × List Char)

/-- The line breaks at the start of lines that are otherwise blank. -/
def emptyLines : (fuel : Nat) → List Char → Scanned
  | 0, _ => .error .malformed
  | fuel + 1, s =>
    if startsDocumentMark s then .error .malformed
    else
      match s.dropWhile isSpaceOrTab with
      | [] => .ok ([], [])
      | c :: rest =>
        if isBreak c then do
          let (breaks, rest) ← emptyLines fuel rest
          return (breakChar c :: breaks, rest)
        else .ok ([], c :: rest)

def greatestCharacter : Nat := 0x10ffff

def character (code : Nat) : Except Failure Char :=
  if Text.isSurrogate code then .ok Text.replacement
  else if code ≤ greatestCharacter then .ok (Char.ofNat code)
  else if code < 0x80000000 then .error .noSuchCharacter
  else .error .characterTooLarge

def hexNumber? (digits : List Char) : Option Nat :=
  digits.foldlM (fun n c => do return n * 16 + (← Text.hexValue? c)) 0

/-- What stands after a backslash. -/
def escape : List Char → Scanned
  | [] => .error .malformed
  | c :: rest =>
    match escapes.lookup c, escapeLength? c with
    | some meant, _ => .ok ([meant], rest)
    | none, some length =>
      match hexNumber? (rest.take length) with
      | some code =>
        if rest.length < length then .error .malformed
        else do return ([← character code], rest.drop length)
      | none => .error .malformed
    | none, none =>
      if isBreak c then emptyLines (rest.length + 1) rest else .error .malformed

def quotedLoop (quote : Char) : (fuel : Nat) → List Char → Scanned
  | 0, _ | _, [] => .error .malformed
  | fuel + 1, c :: rest => do
    if c = quote then
      match quote, rest with
      | '\'', '\'' :: rest =>
        let (text, rest) ← quotedLoop quote fuel rest
        return ('\'' :: text, rest)
      | _, _ => return ([], rest)
    else if c = '\\' ∧ quote = '"' then
      let (part, rest) ← escape rest
      let (text, rest) ← quotedLoop quote fuel rest
      return (part ++ text, rest)
    else if isSpaceOrTab c || isBreak c then
      let blanks := (c :: rest).takeWhile isSpaceOrTab
      match (c :: rest).dropWhile isSpaceOrTab with
      | [] => throw .malformed
      | d :: after =>
        if isBreak d then
          let (breaks, rest) ← emptyLines (after.length + 1) after
          let (text, rest) ← quotedLoop quote fuel rest
          return (folded d breaks ++ text, rest)
        else
          let (text, rest) ← quotedLoop quote fuel (d :: after)
          return (blanks ++ text, rest)
    else
      let (text, rest) ← quotedLoop quote fuel rest
      return (c :: text, rest)

/-- The text up to the closing quote, and what follows the quote. -/
def quoted (quote : Char) (s : List Char) : Scanned := quotedLoop quote (s.length + 1) s

def isFlowMark (c : Char) : Bool := c = ',' ∨ c = '[' ∨ c = ']' ∨ c = '\x7b' ∨ c = '\x7d'

/-- Whether a colon here separates a key from its value. -/
def separates (inFlow : Bool) (afterColon : List Char) : Bool :=
  endsWord afterColon || inFlow && afterColon.head?.any isFlowMark

def plainWord (inFlow : Bool) : List Char → List Char × List Char
  | [] => ([], [])
  | c :: rest =>
    if isSpaceOrTab c || isBreak c || (c = ':' && separates inFlow rest) ||
        (inFlow && (c = '?' || isFlowMark c)) then ([], c :: rest)
    else
      let (word, rest) := plainWord inFlow rest
      (c :: word, rest)

/-- What stands between two words of a plain scalar. -/
structure Gap where
  text : List Char
  /-- The spaces since the line break, if there is one. -/
  column : Option Nat
  rest : List Char

def gapLines : (fuel spaces : Nat) → List Char → List Char × Option Nat × List Char
  | fuel + 1, spaces, c :: rest =>
    if c = ' ' then gapLines fuel (spaces + 1) rest
    else if isBreak c then
      if startsDocumentMark rest then ([], none, rest)
      else
        let (breaks, last, rest) := gapLines fuel 0 rest
        (breakChar c :: breaks, last, rest)
    else ([], some spaces, c :: rest)
  | _, spaces, s => ([], some spaces, s)

/-- A gap without text ends the scalar, also one before a document mark. -/
def gap (s : List Char) : Gap :=
  let spaces := s.takeWhile isSpace
  match s.dropWhile isSpace with
  | [] => ⟨spaces, none, []⟩
  | c :: rest =>
    if isBreak c then
      if startsDocumentMark rest then ⟨[], some 0, rest⟩
      else
        match gapLines (rest.length + 1) 0 rest with
        | (breaks, some column, rest) => ⟨folded c breaks, some column, rest⟩
        | (_, none, rest) => ⟨[], some 0, rest⟩
    else ⟨spaces, none, c :: rest⟩

structure PlainText where
  text : List Char
  rest : List Char
  /-- Whether the text was left across a line break. -/
  brokeLine : Bool

def plainLoop (inFlow : Bool) (indent : Nat) : (fuel : Nat) → Gap → PlainText
  | 0, before => ⟨[], before.rest, before.column.isSome⟩
  | fuel + 1, before =>
    if before.rest.head? = some '#' then ⟨[], before.rest, before.column.isSome⟩
    else
      match plainWord inFlow before.rest with
      | ([], rest) => ⟨[], rest, before.column.isSome⟩
      | (word, rest) =>
        let after := gap rest
        if after.text = [] ∨ (!inFlow ∧ after.column.any (· < indent)) then
          ⟨before.text ++ word, after.rest, after.column.isSome⟩
        else
          let more := plainLoop inFlow indent fuel after
          { more with text := before.text ++ word ++ more.text }

/-- Later lines of a plain scalar that is in no flow are indented at least so far. -/
def plainText (inFlow : Bool) (indent : Nat) (s : List Char) : PlainText :=
  plainLoop inFlow indent (s.length + 1) ⟨[], none, s⟩

inductive Chomping where
  | strip
  | clip
  | keep
deriving DecidableEq

structure BlockStyle where
  folds : Bool
  chomping : Chomping
  /-- The indentation beyond the enclosing one, if it is given. -/
  increment : Option Nat

def chomping? : Char → Option Chomping
  | '+' => some .keep
  | '-' => some .strip
  | _ => none

def increment? (c : Char) : Option (Option Nat) :=
  if Text.isDigit c then some ((Text.hexValue? c).filter (0 < ·)) else none

/-- The marks in the head of a block scalar, in either order. -/
def blockStyle? (folds : Bool) : List Char → Option (BlockStyle × List Char)
  | [] => some (⟨folds, .clip, none⟩, [])
  | c :: rest =>
    match chomping? c, increment? c with
    | some chomping, _ =>
      match rest.head?.bind increment? with
      | some (some n) => some (⟨folds, chomping, some n⟩, rest.drop 1)
      | some none => none
      | none => some (⟨folds, chomping, none⟩, rest)
    | none, some (some n) =>
      match rest.head?.bind chomping? with
      | some chomping => some (⟨folds, chomping, some n⟩, rest.drop 1)
      | none => some (⟨folds, .clip, some n⟩, rest)
    | none, some none => none
    | none, none => some (⟨folds, .clip, none⟩, c :: rest)

/-- The rest of a line that may hold a comment, and the lines after it. -/
def restOfLine? (s : List Char) : Option (List Char) :=
  if !endsWord s then none
  else
    let s := s.dropWhile isSpace
    let s := if s.head? = some '#' then s.dropWhile (!isBreak ·) else s
    if endsLine s then some (s.drop 1) else none

/-- A place inside a block: how far into its line, and what follows. -/
structure BlockPlace where
  column : Nat
  rest : List Char

/-- The line breaks before the first line, and the widest indentation met. -/
def firstIndent : (fuel column widest : Nat) → List Char → List Char × Nat × BlockPlace
  | fuel + 1, column, widest, c :: rest =>
    if c = ' ' then firstIndent fuel (column + 1) (max widest (column + 1)) rest
    else if isBreak c then
      let (breaks, widest, place) := firstIndent fuel 0 widest rest
      (breakChar c :: breaks, widest, place)
    else ([], widest, ⟨column, c :: rest⟩)
  | _, column, widest, s => ([], widest, ⟨column, s⟩)

/-- Takes empty lines, and the indentation of the line that follows them. -/
def blockBreaks (indent : Nat) : (fuel : Nat) → BlockPlace → List Char × BlockPlace
  | 0, place => ([], place)
  | fuel + 1, ⟨column, s⟩ =>
    let spaces := min (s.takeWhile isSpace).length (indent - column)
    match s.drop spaces with
    | [] => ([], ⟨column + spaces, []⟩)
    | c :: rest =>
      if isBreak c then
        let (breaks, place) := blockBreaks indent fuel ⟨0, rest⟩
        (breakChar c :: breaks, place)
      else ([], ⟨column + spaces, c :: rest⟩)

/-- The text, the break of its last line, the empty lines after it, and the rest. -/
def blockLoop (folds : Bool) (indent : Nat) :
    (fuel : Nat) → (breaks : List Char) → BlockPlace →
      List Char × List Char × List Char × List Char
  | 0, breaks, place => ([], [], breaks, place.rest)
  | fuel + 1, breaks, place =>
    if place.column ≠ indent ∨ place.rest = [] then ([], [], breaks, place.rest)
    else
      let line := place.rest.takeWhile (!isBreak ·)
      let after := place.rest.dropWhile (!isBreak ·)
      let lineBreak := (after.take 1).map breakChar
      let (next, place') := blockBreaks indent (after.length + 1) ⟨0, after.drop 1⟩
      if place'.column = indent ∧ place'.rest ≠ [] then
        let joint :=
          if folds ∧ lineBreak = ['\n'] ∧ !line.head?.any isSpaceOrTab ∧
              !place'.rest.head?.any isSpaceOrTab then
            (if next = [] then [' '] else [])
          else lineBreak
        let (text, last, trailing, rest) := blockLoop folds indent fuel next place'
        (breaks ++ line ++ joint ++ text, last, trailing, rest)
      else (breaks ++ line, lineBreak, next, place'.rest)

/-- The text of a block whose first line is the first of these, inside a collection
with that indentation. -/
def blockText (style : BlockStyle) (outer : Int) (s : List Char) : List Char × List Char :=
  let least := max 1 (outer + 1).toNat
  let (breaks, indent, place) :=
    match style.increment with
    | none =>
      let (breaks, widest, place) := firstIndent (s.length + 1) 0 0 s
      (breaks, max least widest, place)
    | some n =>
      let indent := least + n - 1
      let (breaks, place) := blockBreaks indent (s.length + 1) ⟨0, s⟩
      (breaks, indent, place)
  let (text, last, trailing, rest) := blockLoop style.folds indent (s.length + 1) breaks place
  match style.chomping with
  | .strip => (text, rest)
  | .clip => (text ++ last, rest)
  | .keep => (text ++ last ++ trailing, rest)

end DesignTokens.Yaml
