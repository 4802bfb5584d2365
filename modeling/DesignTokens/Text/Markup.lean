import DesignTokens.Text.Emoji

/-! Markup in text for a terminal: tags in brackets set how the text between them
looks. A backslash before a tag makes it text, and so does one before any other
bracket. Names of emoji between colons stand for the emoji. -/
namespace DesignTokens.Text.Markup

def startsTag (c : Char) : Bool := ('a' ≤ c ∧ c ≤ 'z') ∨ c = '#' ∨ c = '/' ∨ c = '@'

/-- The tag that begins with a bracket here, and what follows it. -/
def tag? : List Char → Option (List Char × List Char)
  | '[' :: c :: rest =>
    let inner := rest.takeWhile fun d => d ≠ '[' ∧ d ≠ ']'
    match rest.drop inner.length with
    | ']' :: after => if startsTag c then some ('[' :: c :: inner ++ [']'], after) else none
    | _ => none
  | _ => none

def backslash : Char := '\\'

def backslashes (s : List Char) : Nat := (s.takeWhile (· = backslash)).length

/-- Text cut at its tags: before each tag some text and a number of backslashes. -/
structure Piece where
  text : List Char
  backslashes : Nat
  tag : List Char

/-- The text since the last tag is given with its last character first. -/
def pieces : (fuel : Nat) → (text : List Char) → List Char → List Piece × List Char
  | 0, text, s => ([], text.reverse ++ s)
  | _, text, [] => ([], text.reverse)
  | fuel + 1, text, c :: rest =>
    let count := backslashes (c :: rest)
    match tag? ((c :: rest).drop count) with
    | some (tag, after) =>
      let (more, last) := pieces fuel [] after
      (⟨text.reverse, count, tag⟩ :: more, last)
    | none =>
      let passed := (c :: rest).take (max 1 count)
      pieces fuel (passed.reverse ++ text) ((c :: rest).drop passed.length)

def cut (s : List Char) : List Piece × List Char := pieces (s.length + 1) [] s

/-- A single backslash at the end would take the effect of what comes next. -/
def closeEnd (s : List Char) : List Char :=
  if s.getLast? = some backslash ∧ s.dropLast.getLast? ≠ some backslash then s ++ [backslash] else s

/-- The markup that shows a text as it is. -/
def escape (s : List Char) : List Char :=
  let (pieces, last) := cut s
  closeEnd (pieces.flatMap (fun piece =>
    piece.text ++ List.replicate (2 * piece.backslashes + 1) backslash ++ piece.tag) ++ last)

/-- Brackets that are no tags lose the backslash before them. -/
def withoutEscapes : List Char → List Char
  | '\\' :: '[' :: rest => '[' :: withoutEscapes rest
  | c :: rest => c :: withoutEscapes rest
  | [] => []

/-- Controls that would move the cursor are not shown. -/
def isShown (c : Char) : Bool := !(['\x07', '\x08', '\x0b', '\x0c', '\r'].contains c)

/-- What a text between tags shows. -/
def shownText (s : List Char) : List Char := Emoji.replaced (withoutEscapes s)

/-- The name of a tag in brackets, up to what it is set to. -/
def nameOf (tag : List Char) : List Char := (tag.drop 1).dropLast.takeWhile (· ≠ '=')

/-- The open tags after one more tag, the last one first. A tag with a slash closes the
tag that it names, or the last one; nothing if that is not open. -/
def afterTag? (opened : List (List Char)) (tag : List Char) : Option (List (List Char)) :=
  match nameOf tag with
  | '/' :: name =>
    let name := stripped name
    if name = [] then (if opened = [] then none else some (opened.drop 1))
    else if name ∈ opened then some (opened.erase name)
    else none
  | name => some (stripped name :: opened)

def shownFrom? (opened : List (List Char)) (last : List Char) : List Piece → Option (List Char)
  | [] => some (shownText last)
  | piece :: rest => do
    let isText := piece.backslashes % 2 = 1
    let opened ← if isText then some opened else afterTag? opened piece.tag
    return shownText piece.text ++ List.replicate (piece.backslashes / 2) backslash ++
      (if isText then Emoji.replaced piece.tag else []) ++ (← shownFrom? opened last rest)

/-- What is seen of a markup text, unless it closes a tag that is not open. Without any
bracket it has neither tags nor escapes. -/
def shown? (s : List Char) : Option (List Char) :=
  let (pieces, last) := cut s
  let text := if s.contains '[' then shownFrom? [] last pieces else some (Emoji.replaced s)
  text.map fun text => text.filter isShown

end DesignTokens.Text.Markup
