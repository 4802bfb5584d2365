import DesignTokens.Binary64

/-! Sums and products of floating-point numbers: the exact result, rounded once. -/
namespace DesignTokens.Binary64

def zero (negative : Bool) : Binary64 := ofParts negative 0

/-- The nearest number to `n * 2 ^ exponent`, with the given sign if that is zero. -/
def ofScaled (negativeZero : Bool) (n exponent : Int) : Binary64 :=
  if n = 0 then zero negativeZero
  else ofRatio (n < 0) (n.natAbs * pow2 exponent.toNat) (pow2 (-exponent).toNat)

/-- Nothing for an integer beyond the greatest finite number. -/
def ofNat? (n : Nat) : Option Binary64 :=
  let x := ofScaled false n 0
  if x.isFinite then some x else none

/-- What is no number has no sign to change. -/
def negate (x : Binary64) : Binary64 :=
  if x.isNaN then x else ofParts (!x.isNegative) (x.bits.toNat % pow2 63)

def addFinite (x y : Binary64) : Binary64 :=
  let exponent := min x.exponent y.exponent
  let lifted (z : Binary64) : Int := z.signed * Int.ofNat (pow2 (z.exponent - exponent).toNat)
  ofScaled (x.isNegative && y.isNegative) (lifted x + lifted y) exponent

def add (x y : Binary64) : Binary64 :=
  if x.isNaN || y.isNaN then notANumber
  else if x.isFinite && y.isFinite then addFinite x y
  else if x.isFinite then y
  else if y.isFinite || x = y then x
  else notANumber

def multiply (x y : Binary64) : Binary64 :=
  let negative := x.isNegative != y.isNegative
  if x.isNaN || y.isNaN then notANumber
  else if x.isFinite && y.isFinite then
    ofScaled negative (x.signed * y.signed) (x.exponent + y.exponent)
  else if x.isZero || y.isZero then notANumber
  else infinity negative

end DesignTokens.Binary64
