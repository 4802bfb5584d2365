import DesignTokens.Binary64.Shortest
import Mathlib.Data.List.TakeWhile
import Mathlib.Tactic.NormNum
import Mathlib.Tactic.Ring

/-! Decimal text read as a rational. However a decimal is laid out, it stands for its
digits times the power of ten that its point gives them. -/
namespace DesignTokens.Binary64

def IsDecimal (digits : List Char) : Prop := ∀ c ∈ digits, c.isDigit = true

/-- The natural number that decimal digits stand for. -/
def natOf (digits : List Char) : Nat := Nat.ofDigitChars 10 digits 0

theorem isDecimal_toDigits (n : Nat) : IsDecimal (Nat.toDigits 10 n) :=
  fun _ => Nat.isDigit_of_mem_toDigits (by decide) (by decide)

theorem natOf_toDigits (n : Nat) : natOf (Nat.toDigits 10 n) = n :=
  Nat.ofDigitChars_toDigits (by decide) (by decide)

theorem isDecimal_zeros (count : Nat) : IsDecimal (List.replicate count '0') := by
  intro c member
  rw [List.eq_of_mem_replicate member]
  rfl

theorem IsDecimal.append {digits more : List Char} (front : IsDecimal digits)
    (back : IsDecimal more) : IsDecimal (digits ++ more) :=
  List.forall_mem_append.mpr ⟨front, back⟩

theorem natOf_zeros_append (count : Nat) (digits : List Char) :
    natOf (List.replicate count '0' ++ digits) = natOf digits := by
  induction count with
  | zero => rfl
  | succ count ih =>
    rw [List.replicate_succ, List.cons_append, ← ih, natOf, Nat.ofDigitChars_cons]
    rfl

theorem natOf_append_zeros (digits : List Char) (count : Nat) :
    natOf (digits ++ List.replicate count '0') = natOf digits * 10 ^ count := by
  induction count with
  | zero => rw [List.replicate_zero, List.append_nil, Nat.pow_zero, Nat.mul_one]
  | succ count ih =>
    rw [List.replicate_succ', ← List.append_assoc, natOf, Nat.ofDigitChars_append, ← natOf, ih,
      Nat.ofDigitChars_cons, Nat.pow_succ]
    change 10 * (natOf digits * 10 ^ count) + 0 = _
    ring

theorem natOf_padded (width n : Nat) : natOf (padded width n) = n := by
  rw [padded, natOf_zeros_append, natOf_toDigits]

/-- Digits without the zeros that they end in. -/
def trimmed (digits : List Char) : List Char := (digits.reverse.dropWhile (· = '0')).reverse

theorem trimmed_append_zeros (digits : List Char) :
    trimmed digits ++ List.replicate (digits.length - (trimmed digits).length) '0' = digits := by
  have zeros : (digits.reverse.takeWhile (· = '0')).reverse =
      List.replicate (digits.length - (trimmed digits).length) '0' := by
    refine List.eq_replicate_iff.mpr ⟨?_, ?_⟩
    · have lengths := congrArg List.length
        (List.takeWhile_append_dropWhile (p := fun c => decide (c = '0')) (l := digits.reverse))
      rw [List.length_append, List.length_reverse] at lengths
      rw [trimmed, List.length_reverse, List.length_reverse]
      omega
    · intro c member
      have zero := List.mem_takeWhile_imp (List.mem_reverse.mp member)
      exact of_decide_eq_true zero
  rw [← zeros, trimmed, ← List.reverse_append, List.takeWhile_append_dropWhile,
    List.reverse_reverse]

/-- What stands before the exponent. -/
def beforeExponent (text : List Char) : List Char := text.takeWhile (· ≠ 'e')

def exponentOf (text : List Char) : Int :=
  match text.dropWhile (· ≠ 'e') with
  | _ :: '-' :: digits => -natOf digits
  | _ :: _ :: digits => natOf digits
  | _ => 0

/-- How many digits stand behind the point. -/
def places (text : List Char) : Nat := (text.dropWhile (· ≠ '.')).length - 1

/-- The rational that a decimal with an optional exponent stands for. -/
def reading (text : List Char) : ℚ :=
  natOf ((beforeExponent text).filter (· ≠ '.')) *
    10 ^ (exponentOf text - places (beforeExponent text))

section

variable {whole fraction digits : List Char}

theorem IsDecimal.ne {c mark : Char} (decimal : IsDecimal digits) (member : c ∈ digits)
    (noDigit : mark.isDigit = false) : c ≠ mark := by
  rintro rfl
  exact absurd (noDigit.symm.trans (decimal c member)) Bool.false_ne_true

theorem filter_point (decimal : IsDecimal digits) : digits.filter (· ≠ '.') = digits :=
  List.filter_eq_self.mpr fun _ member => decide_eq_true (decimal.ne member rfl)

/-- Whatever holds no exponent, in front of one or on its own. -/
theorem beforeExponent_append {front : List Char} (free : ∀ c ∈ front, c ≠ 'e')
    (rest : List Char) : beforeExponent (front ++ 'e' :: rest) = front := by
  rw [beforeExponent, List.takeWhile_append_of_pos fun c member => decide_eq_true (free c member)]
  simp

theorem beforeExponent_eq_self {front : List Char} (free : ∀ c ∈ front, c ≠ 'e') :
    beforeExponent front = front :=
  List.takeWhile_eq_self_iff.mpr fun c member => decide_eq_true (free c member)

theorem exponentOf_eq_zero {front : List Char} (free : ∀ c ∈ front, c ≠ 'e') :
    exponentOf front = 0 := by
  rw [exponentOf, List.dropWhile_eq_nil_iff.mpr fun c member => decide_eq_true (free c member)]

/-- An exponent as it is written, with a sign and two digits or more. -/
def exponentText (power : Int) : List Char :=
  'e' :: (if power < 0 then '-' else '+') :: padded 2 power.natAbs

private theorem exponentOf_append {front : List Char} (free : ∀ c ∈ front, c ≠ 'e') (power : Int) :
    exponentOf (front ++ exponentText power) = power := by
  rw [exponentOf, List.dropWhile_append_of_pos fun c member => decide_eq_true (free c member),
    exponentText]
  by_cases negative : power < 0
  · rw [if_pos negative]
    change -(natOf (padded 2 power.natAbs) : Int) = power
    rw [natOf_padded]
    omega
  · rw [if_neg negative]
    change (natOf (padded 2 power.natAbs) : Int) = power
    rw [natOf_padded]
    omega

theorem reading_append_exponent {front : List Char} (free : ∀ c ∈ front, c ≠ 'e') (power : Int) :
    reading (front ++ exponentText power) = reading front * 10 ^ power := by
  rw [reading, reading, exponentOf_append free, exponentText, beforeExponent_append free,
    beforeExponent_eq_self free, exponentOf_eq_zero free, mul_assoc, ← zpow_add₀ (by norm_num)]
  congr 2
  ring

end

/-- Digits, or digits with a point behind some of them, and the number they stand for. -/
inductive IsMantissa : List Char → ℚ → Prop
  | digits {digits : List Char} (decimal : IsDecimal digits) (some : digits ≠ []) :
      IsMantissa digits (natOf digits)
  | point {whole fraction : List Char} (decimal : IsDecimal whole) (some : whole ≠ [])
      (decimal' : IsDecimal fraction) :
      IsMantissa (whole ++ '.' :: fraction)
        (natOf (whole ++ fraction) * 10 ^ (-(fraction.length : Int)))

namespace IsMantissa

variable {text : List Char} {x : ℚ} (mantissa : IsMantissa text x)

include mantissa

theorem forall_mem {holds : Char → Prop} (digit : ∀ c, c.isDigit = true → holds c)
    (dot : holds '.') : ∀ c ∈ text, holds c := by
  cases mantissa with
  | digits decimal _ => exact fun c member => digit c (decimal c member)
  | point decimal _ decimal' =>
    exact List.forall_mem_append.mpr ⟨fun c member => digit c (decimal c member),
      List.forall_mem_cons.mpr ⟨dot, fun c member => digit c (decimal' c member)⟩⟩

theorem free : ∀ c ∈ text, c ≠ 'e' := by
  refine mantissa.forall_mem (fun c digit => ?_) (by decide)
  rintro rfl
  contradiction

theorem head? : ∃ c, text.head? = some c ∧ c.isDigit = true := by
  cases mantissa with
  | digits decimal some =>
    obtain ⟨c, rest, rfl⟩ := List.exists_cons_of_ne_nil some
    exact ⟨c, rfl, decimal c List.mem_cons_self⟩
  | point decimal some _ =>
    obtain ⟨c, rest, rfl⟩ := List.exists_cons_of_ne_nil some
    exact ⟨c, rfl, decimal c List.mem_cons_self⟩

theorem reading_eq : reading text = x := by
  have free := mantissa.free
  rw [reading, beforeExponent_eq_self free, exponentOf_eq_zero free, places]
  cases mantissa with
  | digits decimal _ =>
    have pointless : text.dropWhile (· ≠ '.') = [] :=
      List.dropWhile_eq_nil_iff.mpr fun _ member => decide_eq_true (decimal.ne member rfl)
    rw [filter_point decimal, pointless]
    simp
  | @point whole fraction decimal _ decimal' =>
    have behind : (whole ++ '.' :: fraction).dropWhile (· ≠ '.') = '.' :: fraction := by
      rw [List.dropWhile_append_of_pos fun c member => decide_eq_true (decimal.ne member rfl)]
      simp
    rw [behind, List.filter_append, filter_point decimal, List.filter_cons_of_neg (by simp),
      filter_point decimal', List.length_cons, Nat.add_sub_cancel, Int.zero_sub]

end IsMantissa

/-- A mantissa with a point, or one with an exponent. -/
inductive Denotes : List Char → ℚ → Prop
  | plain {text : List Char} {x : ℚ} (mantissa : IsMantissa text x) (pointed : '.' ∈ text) :
      Denotes text x
  | scaled {text : List Char} {x : ℚ} (mantissa : IsMantissa text x) (power : Int) :
      Denotes (text ++ exponentText power) (x * 10 ^ power)

theorem isDecimal_padded (width n : Nat) : IsDecimal (padded width n) :=
  (isDecimal_zeros _).append (isDecimal_toDigits n)

namespace Denotes

variable {text : List Char} {x : ℚ} (denotes : Denotes text x)

include denotes

theorem of_eq {y : ℚ} (same : x = y) : Denotes text y := same ▸ denotes

theorem reading_eq : reading text = x := by
  cases denotes with
  | plain mantissa _ => exact mantissa.reading_eq
  | scaled mantissa power =>
    rw [reading_append_exponent mantissa.free, mantissa.reading_eq]

theorem head? : ∃ c, text.head? = some c ∧ c.isDigit = true := by
  cases denotes with
  | plain mantissa _ => exact mantissa.head?
  | scaled mantissa power =>
    obtain ⟨c, starts, digit⟩ := mantissa.head?
    exact ⟨c, by rw [List.head?_append, starts, Option.some_or], digit⟩

theorem forall_mem {holds : Char → Prop} (digit : ∀ c, c.isDigit = true → holds c)
    (marks : ∀ c ∈ ['.', 'e', '+', '-'], holds c) : ∀ c ∈ text, holds c := by
  simp only [List.forall_mem_cons] at marks
  obtain ⟨dot, exponent, plus, minus, -⟩ := marks
  cases denotes with
  | plain mantissa _ => exact mantissa.forall_mem digit dot
  | scaled mantissa power =>
    refine List.forall_mem_append.mpr ⟨mantissa.forall_mem digit dot, ?_⟩
    refine List.forall_mem_cons.mpr ⟨exponent, List.forall_mem_cons.mpr ⟨?_, ?_⟩⟩
    · split
      · exact minus
      · exact plus
    · exact fun c member => digit c (isDecimal_padded _ _ c member)

/-- No decimal is written as an integer is. -/
theorem exists_mem : ∃ c ∈ text, c.isDigit = false ∧ c ≠ '-' := by
  cases denotes with
  | plain _ pointed => exact ⟨'.', pointed, rfl, by decide⟩
  | scaled _ power => exact ⟨'e', List.mem_append_right _ List.mem_cons_self, rfl, by decide⟩

end Denotes

section

variable {digits : List Char} (decimal : IsDecimal digits) (some : digits ≠ []) (point : Int)

include decimal some

theorem denotes_withExponent :
    Denotes (withExponent digits (point - 1))
      (natOf digits * 10 ^ (point - (digits.length : Int))) := by
  unfold withExponent
  dsimp only
  split
  · contradiction
  · next digit => exact Denotes.scaled (.digits decimal some) (point - 1)
  · next digit rest _ =>
    obtain ⟨first, others⟩ := List.forall_mem_cons.mp decimal
    have mantissa : IsMantissa ([digit] ++ '.' :: rest) _ :=
      .point (List.forall_mem_singleton.mpr first) (List.cons_ne_nil _ _) others
    refine (Denotes.scaled mantissa (point - 1)).of_eq ?_
    rw [mul_assoc, ← zpow_add₀ (by norm_num), List.length_cons]
    congr 2
    push_cast
    ring

/-- Whichever way a decimal is laid out, it stands for its digits behind a point, times ten to
the place of that point. -/
theorem denotes_decimalText :
    Denotes (decimalText digits point) (natOf digits * 10 ^ (point - (digits.length : Int))) := by
  have zero : IsDecimal ['0'] := isDecimal_zeros 1
  unfold decimalText
  split
  · exact denotes_withExponent decimal some point
  · split
    · next low =>
      have mantissa := IsMantissa.point zero (List.cons_ne_nil _ _)
        ((isDecimal_zeros (-point).toNat).append decimal)
      refine (Denotes.plain mantissa (by simp)).of_eq ?_
      rw [← List.append_assoc, ← List.replicate_one, List.replicate_append_replicate,
        natOf_zeros_append, List.length_append, List.length_replicate]
      congr 2
      push_cast
      omega
    · next high =>
      dsimp only
      split
      · next short =>
        have mantissa := IsMantissa.point
          (decimal.append (isDecimal_zeros (point.toNat - digits.length)))
          (List.append_ne_nil_of_left_ne_nil some _) zero
        refine (Denotes.plain mantissa (by simp)).of_eq ?_
        rw [List.append_assoc, ← List.replicate_one, List.replicate_append_replicate,
          natOf_append_zeros, List.length_replicate]
        push_cast
        rw [mul_assoc, ← zpow_natCast, ← zpow_add₀ (by norm_num)]
        congr 2
        omega
      · next long =>
        have whole : digits.take point.toNat ≠ [] := by
          rw [Ne, List.take_eq_nil_iff]
          exact not_or.mpr ⟨by omega, some⟩
        have fraction : IsDecimal (digits.drop point.toNat) :=
          fun c member => decimal c (List.mem_of_mem_drop member)
        have mantissa := IsMantissa.point
          (fun c member => decimal c (List.mem_of_mem_take member)) whole fraction
        refine (Denotes.plain mantissa (by simp)).of_eq ?_
        rw [List.take_append_drop, List.length_drop]
        congr 2
        omega

end

end DesignTokens.Binary64
