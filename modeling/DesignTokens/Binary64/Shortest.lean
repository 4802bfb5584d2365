import DesignTokens.Binary64

/-! Decimal text of floating-point numbers: the fewest significant digits that
read back as the number, and of those the nearest to it. -/
namespace DesignTokens.Binary64

/-- A positive quotient compared with `count * 10 ^ power`. -/
structure Quotient where
  num : Nat
  den : Nat

namespace Quotient

def scaleUp (base : Nat) (power : Int) (q : Quotient) : Quotient :=
  ⟨q.num * Nat.pow base power.toNat, q.den * Nat.pow base (-power).toNat⟩

def le (p q : Quotient) : Bool := p.num * q.den ≤ q.num * p.den

def lt (p q : Quotient) : Bool := p.num * q.den < q.num * p.den

def floor (q : Quotient) : Nat := q.num / q.den

end Quotient

/-- The finite number `mantissa * 2 ^ exponent` with the ends of the interval of
reals that round to it. The lower gap is half as wide at a power of two, and the
ends belong to the interval when the mantissa is even. -/
structure Interval where
  value : Quotient
  low : Quotient
  high : Quotient
  closed : Bool

def interval (mantissa : Nat) (exponent : Int) : Interval :=
  let at4 (n : Nat) : Quotient := Quotient.scaleUp 2 (exponent - 2) ⟨n, 1⟩
  let gap := if mantissa = pow2 52 ∧ -1074 < exponent then 1 else 2
  ⟨at4 (4 * mantissa), at4 (4 * mantissa - gap), at4 (4 * mantissa + 2), mantissa % 2 = 0⟩

def Interval.holds (i : Interval) (q : Quotient) : Bool :=
  if i.closed then i.low.le q && q.le i.high else i.low.lt q && q.lt i.high

/-- The power `p` with `10 ^ (p - 1) ≤ q < 10 ^ p`. -/
def Quotient.magnitude (q : Quotient) : Int :=
  let guess := (digitCount q.num : Int) - digitCount q.den
  if (Quotient.scaleUp 10 guess ⟨1, 1⟩).le q then guess + 1 else guess

/-- The point of the grid of multiples of `10 ^ power` that lies in the interval,
the nearer of two, an exact tie going to the even one. -/
def gridPoint? (i : Interval) (power : Int) : Option Nat :=
  let below := (i.value.scaleUp 10 (-power)).floor
  let at10 (n : Nat) : Quotient := Quotient.scaleUp 10 power ⟨n, 1⟩
  let midpoint := (Quotient.scaleUp 10 power ⟨2 * below + 1, 2⟩)
  match i.holds (at10 below), i.holds (at10 (below + 1)) with
  | true, false => some below
  | false, true => some (below + 1)
  | false, false => none
  | true, true =>
    if i.value.lt midpoint then some below
    else if midpoint.lt i.value then some (below + 1)
    else if below % 2 = 0 then some below else some (below + 1)

/-- Seventeen digits always suffice. -/
def shortest (mantissa : Nat) (exponent : Int) : Nat × Int :=
  let i := interval mantissa exponent
  let top := i.value.magnitude
  let grids := (List.range 17).map fun (count : Nat) => top - ((count : Int) + 1)
  (grids.findSome? fun power => (gridPoint? i power).map fun n => (n, power)).getD (0, 0)

/-- The significant digits of a positive number and the place of its point:
the number is `0.d₁d₂…` times ten to that power. -/
def significant (mantissa : Nat) (exponent : Int) : List Char × Int :=
  let (n, power) := shortest mantissa exponent
  let digits := Nat.toDigits 10 n
  let trimmed := (digits.reverse.dropWhile (· = '0')).reverse
  (trimmed, power + digits.length)

def padded (width : Nat) (n : Nat) : List Char :=
  let digits := Nat.toDigits 10 n
  List.replicate (width - digits.length) '0' ++ digits

def withExponent (digits : List Char) (power : Int) : List Char :=
  let sign := if power < 0 then '-' else '+'
  let tail := 'e' :: sign :: padded 2 power.natAbs
  match digits with
  | [] => '0' :: tail
  | [d] => d :: tail
  | d :: rest => d :: '.' :: rest ++ tail

/-- Positional from 0.0001 up to below 10 ^ 16, always with a point; with an
exponent of at least two digits elsewhere. -/
def decimalText (digits : List Char) (point : Int) : List Char :=
  if point ≤ -4 ∨ 16 < point then withExponent digits (point - 1)
  else if point ≤ 0 then '0' :: '.' :: List.replicate (-point).toNat '0' ++ digits
  else
    let whole := point.toNat
    if digits.length ≤ whole then
      digits ++ List.replicate (whole - digits.length) '0' ++ ['.', '0']
    else digits.take whole ++ '.' :: digits.drop whole

/-- How the values that are no decimals are spelled. -/
structure Spelling where
  infinity : String
  notANumber : String

def plain : Spelling := ⟨"inf", "nan"⟩

def text (spelling : Spelling) (x : Binary64) : List Char :=
  let sign := if x.isNegative then ['-'] else []
  if x.isNaN then spelling.notANumber.toList
  else if !x.isFinite then sign ++ spelling.infinity.toList
  else if x.mantissa = 0 then sign ++ ['0', '.', '0']
  else
    let (digits, point) := significant x.mantissa x.exponent
    sign ++ decimalText digits point

end DesignTokens.Binary64
