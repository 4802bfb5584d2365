import DesignTokens.Binary64
import DesignTokens.Text.Blank
import DesignTokens.Text.Digit

/-! Numbers as people write them: with blanks around them, a sign, and the digits of
any script. Integers have a limit to how many decimal digits they are read from
and written with. -/
namespace DesignTokens.Numeral

open Text

def longest : Nat := 4300

/-- Integers this large have more digits than can be read or written. -/
def bound : Nat := Binary64.pow10 longest

def isWritable (n : Int) : Bool := n.natAbs < bound

/-- The decimal text of an integer that can be written. -/
def text (n : Int) : List Char := (toString n).toList

/-- In a text that goes beyond ASCII, the digits of all scripts are one, and so are all
blanks. -/
def unified (s : List Char) : List Char :=
  if s.all (·.toNat < 0x80) then s
  else s.map fun c =>
    if c.toNat < 0x80 then c
    else if isBlank c then ' '
    else
      match scriptDigit? c with
      | some digit => Char.ofNat ('0'.toNat + digit)
      | none => '?'

def isMargin (c : Char) : Bool := c = ' ' ∨ ('\t' ≤ c ∧ c ≤ '\r')

def withoutMargins (s : List Char) : List Char :=
  ((s.dropWhile isMargin).reverse.dropWhile isMargin).reverse

def signed : List Char → Bool × List Char
  | '-' :: rest => (true, rest)
  | '+' :: rest => (false, rest)
  | s => (false, s)

def withSign (negative : Bool) (n : Nat) : Int := if negative then -n else n

/-- The letter that may follow a zero in front of digits of a base. -/
def baseLetter? : Nat → Option Char
  | 2 => some 'b'
  | 8 => some 'o'
  | 16 => some 'x'
  | _ => none

def withoutBase (base : Nat) (s : List Char) : List Char :=
  match s with
  | '0' :: letter :: rest => if baseLetter? base = some letter.toLower then rest else s
  | _ => s

def digitsIn? (base : Nat) (s : List Char) : Option Nat :=
  s.foldlM (fun n c => do
    let digit ← hexValue? c
    if digit < base then some (n * base + digit) else none) 0

/-- Only decimal digits are limited in number. -/
def natural? (base : Nat) (s : List Char) : Option Nat :=
  if s = [] ∨ (base = 10 ∧ longest < s.length) then none else digitsIn? base s

def integer? (base : Nat) (s : List Char) : Option Int :=
  let (negative, digits) := signed (withoutMargins (unified s))
  (natural? base (withoutBase base digits)).map (withSign negative)

/-- The power of ten that an exponent gives. -/
def exponent? (s : List Char) : Option Int :=
  match s with
  | [] => some 0
  | e :: rest =>
    let (negative, digits) := signed rest
    if (e = 'e' ∨ e = 'E') ∧ digits ≠ [] ∧ digits.all isDigit then
      some (withSign negative (digitsValue digits))
    else none

def fraction (s : List Char) : List Char × List Char :=
  match s with
  | '.' :: rest => (rest.takeWhile isDigit, rest.dropWhile isDigit)
  | _ => ([], s)

def unsignedDecimal? (negative : Bool) (s : List Char) : Option Binary64 :=
  let word := (String.ofList s).toLower
  if word = "inf" ∨ word = "infinity" then some (.infinity negative)
  else if word = "nan" then some .notANumber
  else
    let whole := s.takeWhile isDigit
    let (places, rest) := fraction (s.dropWhile isDigit)
    if whole ++ places = [] then none
    else (exponent? rest).map fun power =>
      Binary64.ofDecimal negative (digitsValue (whole ++ places)) (power - places.length)

def decimal? (s : List Char) : Option Binary64 :=
  let (negative, rest) := signed (withoutMargins (unified s))
  unsignedDecimal? negative rest

end DesignTokens.Numeral
