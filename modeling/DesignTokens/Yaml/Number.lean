import DesignTokens.Binary64.Arithmetic
import DesignTokens.Numeral
import DesignTokens.Yaml.Failure

/-! The numbers that scalars stand for. Underscores are left out, a leading zero is for
octal digits, and parts separated by colons are parts of sixty. -/
namespace DesignTokens.Yaml

open Numeral

def withoutGroups (text : List Char) : List Char := text.filter (· ≠ '_')

def splitAtColons : List Char → List (List Char)
  | [] => [[]]
  | c :: rest =>
    if c = ':' then [] :: splitAtColons rest
    else
      match splitAtColons rest with
      | [] => [[c]]
      | first :: others => (c :: first) :: others

/-- The sign of a number that is not empty. -/
def signOf (text : List Char) : Except Failure (Bool × List Char) :=
  if text = [] then .error .emptyNumber else .ok (signed text)

def orNotNumber {α : Type} (a : Option α) : Except Failure α := a.elim (.error .notNumber) .ok

def integerIn (base : Nat) (s : List Char) : Except Failure Int := orNotNumber (integer? base s)

def magnitude : List Char → Except Failure Int
  | [] => .error .emptyNumber
  | ['0'] => .ok 0
  | '0' :: 'b' :: digits => integerIn 2 digits
  | '0' :: 'x' :: digits => integerIn 16 digits
  | '0' :: digits => integerIn 8 ('0' :: digits)
  | s => do
    let parts ← (splitAtColons s).mapM (integerIn 10)
    return parts.foldl (fun n part => n * 60 + part) 0

def integer (text : List Char) : Except Failure Int := do
  let (negative, digits) ← signOf (withoutGroups text)
  let n ← magnitude digits
  return if negative then -n else n

/-- The sum of the parts, the last one first, of which each counts sixty times as much
as the one before. Every step is rounded. -/
def sumOfParts (sum : Binary64) (unit : Nat) : List Binary64 → Except Failure Binary64
  | [] => .ok sum
  | part :: rest =>
    match Binary64.ofNat? unit with
    | some factor => sumOfParts (sum.add (part.multiply factor)) (unit * 60) rest
    | none => .error .numberTooLarge

def size (s : List Char) : Except Failure Binary64 := do
  if s = ".inf".toList then return .infinity false
  else if s = ".nan".toList then return .notANumber
  else if s.contains ':' then
    let parts ← (splitAtColons s).mapM fun part => orNotNumber (decimal? part)
    sumOfParts (.zero false) 1 parts.reverse
  else orNotNumber (decimal? s)

def decimal (text : List Char) : Except Failure Binary64 := do
  let (negative, digits) ← signOf ((withoutGroups text).map Char.toLower)
  let x ← size digits
  return if negative then x.negate else x

/-- The word for what is no number. -/
def isNaNWord (text : List Char) : Bool :=
  (signed ((withoutGroups text).map Char.toLower)).2 = ".nan".toList

end DesignTokens.Yaml
