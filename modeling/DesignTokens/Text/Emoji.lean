import DesignTokens.Text.Blank
import DesignTokens.Text.Digit
import DesignTokens.Text.Emoji.Names

/-! Emoji in text: a name between colons stands for the emoji of that name. After the
name may stand whether it is to be shown in color or as text. -/
namespace DesignTokens.Text.Emoji

def words (s : List Char) : List (List Char) :=
  (s.foldr (fun c words =>
    match isBlank c, words with
    | true, words => [] :: words
    | false, [] => [[c]]
    | false, word :: rest => (c :: word) :: rest) []).filter (· ≠ [])

def ofNumbers (code : Nat) (characters : List Char) : List Char → List Char
  | [] => characters ++ [Char.ofNat code]
  | c :: rest =>
    match hexValue? c with
    | some digit => ofNumbers (code * 16 + digit) characters rest
    | none => ofNumbers 0 (characters ++ [Char.ofNat code]) rest

def pairUp : List (List Char) → List (List Char × List Char)
  | name :: numbers :: rest => (name, ofNumbers 0 [] numbers) :: pairUp rest
  | _ => []

def table : List (List Char × List Char) := pairUp (words listing.toList)

/-- Capitals beyond ASCII whose small letters are in names. -/
def capitals : List (Char × Char) := [
  ('Ã', 'ã'), ('Å', 'å'), ('Ç', 'ç'), ('É', 'é'), ('Í', 'í'), ('Ô', 'ô'), ('\u212a', 'k'),
  ('\u212b', 'å')]

def lowered (c : Char) : Char := (capitals.lookup c).getD c.toLower

/-- Capitals and small letters do not differ in a name. -/
def named? (name : List Char) : Option (List Char) := table.lookup (name.map lowered)

def endings : List (String × List Char) := [
  (":", []), ("-emoji:", ['\ufe0f']), ("-text:", ['\ufe0e'])]

/-- What ends a name here: the mark that it adds to the emoji, and what follows. -/
def ending? (s : List Char) : Option (List Char × List Char) :=
  (endings.find? fun ending => ending.1.toList.isPrefixOf s).map fun ending =>
    (ending.2, s.drop ending.1.length)

structure Code where
  name : List Char
  mark : List Char
  rest : List Char

/-- The shortest name without blanks that is ended. -/
def code? (s : List Char) : Option Code :=
  match ending? s, s with
  | some (mark, rest), _ => some ⟨[], mark, rest⟩
  | none, [] => none
  | none, c :: rest =>
    if isBlank c then none
    else (code? rest).map fun code => { code with name := c :: code.name }

def replacedLoop : (fuel : Nat) → List Char → List Char
  | 0, s => s
  | _, [] => []
  | fuel + 1, c :: rest =>
    match if c = ':' then code? rest else none with
    | none => c :: replacedLoop fuel rest
    | some code =>
      let written := (c :: rest).take (rest.length + 1 - code.rest.length)
      (((named? code.name).map (· ++ code.mark)).getD written) ++ replacedLoop fuel code.rest

/-- A text with the emoji in place of their names. Names that no emoji has stay. -/
def replaced (s : List Char) : List Char := replacedLoop s.length s

end DesignTokens.Text.Emoji
