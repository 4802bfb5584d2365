import DesignTokens.Binary64.Shortest
import DesignTokens.Numeral
import DesignTokens.Value

/-! Values as JSON text, on one line or indented. Characters beyond ASCII are
written as they are. Integers with too many digits are not written, nor are values
with more lists and objects inside each other than the writer has room for. -/
namespace DesignTokens.Json

def spelling : Binary64.Spelling := ⟨"Infinity", "NaN"⟩

def hexDigit (n : Nat) : Char := (Nat.toDigits 16 n).headD '0'

def escaped (c : Char) : List Char :=
  if c = '"' ∨ c = '\\' then ['\\', c]
  else if c = '\n' then ['\\', 'n']
  else if c = '\r' then ['\\', 'r']
  else if c = '\t' then ['\\', 't']
  else if c = '\x08' then ['\\', 'b']
  else if c = '\x0c' then ['\\', 'f']
  else if c.toNat < 0x20 then
    ['\\', 'u', '0', '0', hexDigit (c.toNat / 16), hexDigit (c.toNat % 16)]
  else [c]

def stringText (s : String) : List Char := '"' :: s.toList.flatMap escaped ++ ['"']

/-- `none` prints one line; otherwise one item a line, after a text for each level that
it is inside of. -/
abbrev Indent := Option (List Char)

/-- Each level indents by so many spaces, a negative number by none. -/
def columns (n : Int) : Indent := some (List.replicate n.toNat ' ')

def lineBreak : Indent → Nat → List Char
  | none, _ => []
  | some level, depth => '\n' :: (List.replicate depth level).flatten

def separator : Indent → Nat → List Char
  | none, _ => [',', ' ']
  | indent, depth => ',' :: lineBreak indent depth

def enclosed (indent : Indent) (depth : Nat) (start stop : Char) (parts : List (List Char)) :
    List Char :=
  if parts.isEmpty then [start, stop]
  else start :: lineBreak indent (depth + 1) ++
    List.intercalate (separator indent (depth + 1)) parts ++ lineBreak indent depth ++ [stop]

mutual

def valueText (indent : Indent) (depth : Nat) : Value → List Char
  | .null => "null".toList
  | .bool true => "true".toList
  | .bool false => "false".toList
  | .int n => Numeral.text n
  | .float x => x.text spelling
  | .str s => stringText s
  | .list items => enclosed indent depth '[' ']' (itemTexts indent (depth + 1) items)
  | .object fields => enclosed indent depth '{' '}' (fieldTexts indent (depth + 1) fields)

def itemTexts (indent : Indent) (depth : Nat) : List Value → List (List Char)
  | [] => []
  | v :: rest => valueText indent depth v :: itemTexts indent depth rest

def fieldTexts (indent : Indent) (depth : Nat) : Entries Value → List (List Char)
  | [] => []
  | (k, v) :: rest =>
    (stringText k ++ ':' :: ' ' :: valueText indent depth v) :: fieldTexts indent depth rest

end

def text (indent : Indent) (value : Value) : String := String.ofList (valueText indent 0 value)

/-- Why a value cannot be written. -/
inductive Unwritable where
  | longInteger
  | tooDeep
deriving DecidableEq

mutual

/-- The first thing in a value that cannot be written, if there is any, with room for
so many lists and objects inside each other. -/
def unwritable? : (room : Nat) → Value → Option Unwritable
  | _, .int n => if Numeral.isWritable n then none else some .longInteger
  | 0, .list _ | 0, .object _ => some .tooDeep
  | room + 1, .list items => unwritableItem? room items
  | room + 1, .object fields => unwritableField? room fields
  | _, _ => none

def unwritableItem? (room : Nat) : List Value → Option Unwritable
  | [] => none
  | v :: rest => (unwritable? room v).or (unwritableItem? room rest)

def unwritableField? (room : Nat) : Entries Value → Option Unwritable
  | [] => none
  | (_, v) :: rest => (unwritable? room v).or (unwritableField? room rest)

end

/-- The text of a value that can be written. -/
def print (room : Nat) (indent : Indent) (value : Value) : Except Unwritable String :=
  match unwritable? room value with
  | none => .ok (text indent value)
  | some fault => .error fault

end DesignTokens.Json
