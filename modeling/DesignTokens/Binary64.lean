/-! Floating-point numbers as their 64 bits. Reading a decimal rounds the exact
quotient to the nearest number, a tie going to the even mantissa; no arithmetic
on these numbers is needed beyond comparing one with an integer. -/
namespace DesignTokens

structure Binary64 where
  bits : UInt64
deriving DecidableEq

namespace Binary64

def pow2 (n : Nat) : Nat := Nat.pow 2 n

def pow10 (n : Nat) : Nat := Nat.pow 10 n

def isNegative (x : Binary64) : Bool := pow2 63 ≤ x.bits.toNat

def exponentField (x : Binary64) : Nat := x.bits.toNat / pow2 52 % pow2 11

def fractionField (x : Binary64) : Nat := x.bits.toNat % pow2 52

def isFinite (x : Binary64) : Bool := x.exponentField < 2047

def isNaN (x : Binary64) : Bool := x.exponentField = 2047 ∧ x.fractionField ≠ 0

/-- A finite number is its mantissa times a power of two, up to its sign. -/
def mantissa (x : Binary64) : Nat :=
  if x.exponentField = 0 then x.fractionField else pow2 52 + x.fractionField

def exponent (x : Binary64) : Int := (max 1 x.exponentField : Nat) - 1075

def isZero (x : Binary64) : Bool := x.isFinite ∧ x.mantissa = 0

def signed (x : Binary64) : Int := if x.isNegative then -x.mantissa else x.mantissa

def ofParts (negative : Bool) (rest : Nat) : Binary64 :=
  ⟨UInt64.ofNat ((if negative then pow2 63 else 0) + rest)⟩

def infinity (negative : Bool) : Binary64 := ofParts negative (2047 * pow2 52)

def notANumber : Binary64 := ofParts false (2047 * pow2 52 + pow2 51)

/-- Equal as numbers: both zeros are one number, and a number that is not one
is taken to be the same as itself. -/
def agrees (x y : Binary64) : Bool :=
  x = y || (x.isZero && y.isZero) || (x.isNaN && y.isNaN)

def agreesWithInt (x : Binary64) (n : Int) : Bool :=
  x.isFinite && x.signed * Int.ofNat (pow2 x.exponent.toNat) ==
    n * Int.ofNat (pow2 (-x.exponent).toNat)

theorem agrees_refl (x : Binary64) : x.agrees x = true := by simp [agrees]

/-- The quotient rounded to the nearest integer, a tie going to the even one. -/
def roundQuotient (num den : Nat) : Nat :=
  let q := num / den
  let r := num % den
  if 2 * r < den then q
  else if den < 2 * r then q + 1
  else if q % 2 = 0 then q else q + 1

/-- The nearest number to a quotient of positive integers. The unit in the last
place is a power of two chosen so that the quotient has 53 bits, or the least
one there is. -/
def ofRatio (negative : Bool) (num den : Nat) : Binary64 :=
  let estimate : Int := max ((num.log2 : Int) - den.log2 - 53) (-1074)
  let scaled (unit : Int) : Nat × Nat := (num * pow2 (-unit).toNat, den * pow2 unit.toNat)
  let (n, d) := scaled estimate
  let unit := if n / d < pow2 53 then estimate else estimate + 1
  let (n, d) := scaled unit
  let field := (unit + 1074).toNat * pow2 52 + roundQuotient n d
  if field < 2047 * pow2 52 then ofParts negative field else infinity negative

def digitCount (n : Nat) : Nat := (Nat.toDigits 10 n).length

/-- The nearest number to `digits * 10 ^ power`. Powers far outside the range of
finite numbers are settled without computing them. -/
def ofDecimal (negative : Bool) (digits : Nat) (power : Int) : Binary64 :=
  let size := power + digitCount digits
  if digits = 0 ∨ size < -400 then ofParts negative 0
  else if 400 < size then infinity negative
  else ofRatio negative (digits * pow10 power.toNat) (pow10 (-power).toNat)

end Binary64

end DesignTokens
