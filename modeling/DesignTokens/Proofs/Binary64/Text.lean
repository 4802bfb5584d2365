import DesignTokens.Proofs.Binary64.Decimal
import DesignTokens.Proofs.Binary64.Interval

/-! The text of a floating-point number tells the number: its decimal stands for a real
that rounds to it. Two numbers with one text are one number, or neither is a number. -/
namespace DesignTokens.Binary64

/-- The text of a number but for its sign. -/
def unsignedText (spelling : Spelling) (x : Binary64) : List Char :=
  if !x.isFinite then spelling.infinity.toList
  else if x.mantissa = 0 then ['0', '.', '0']
  else decimalText (significant x.mantissa x.exponent).1 (significant x.mantissa x.exponent).2

theorem text_of_isNaN_eq_false (spelling : Spelling) {x : Binary64} (number : x.isNaN = false) :
    x.text spelling = (if x.isNegative then ['-'] else []) ++ x.unsignedText spelling := by
  unfold text unsignedText
  rw [number]
  dsimp only
  simp only [Bool.false_eq_true, if_false]
  split
  · rfl
  · split
    · rfl
    · rfl

theorem text_of_isNaN (spelling : Spelling) {x : Binary64} (isNaN : x.isNaN = true) :
    x.text spelling = spelling.notANumber.toList := by
  unfold text
  rw [isNaN]
  rfl

section

variable {m : Nat} {e : Int}

theorem lowEnd_pos (positive : 0 < m) (e : Int) : 0 < lowEnd m e := by
  have small : gap m e < 4 * m := by have := one_le_gap m e; omega
  have : (gap m e : ℚ) < 4 * m := by exact_mod_cast small
  exact mul_pos (by linarith) (zpow_ulp_pos e)

private theorem significant_eq (m : Nat) (e : Int) :
    significant m e = (trimmed (Nat.toDigits 10 (shortest m e).1),
      (shortest m e).2 + (Nat.toDigits 10 (shortest m e).1).length) := rfl

theorem isDecimal_significant (m : Nat) (e : Int) : IsDecimal (significant m e).1 := by
  have whole := isDecimal_toDigits (shortest m e).1
  rw [← trimmed_append_zeros (Nat.toDigits 10 (shortest m e).1)] at whole
  exact (List.forall_mem_append.mp whole).1

theorem value_significant (m : Nat) (e : Int) :
    (natOf (significant m e).1 : ℚ) *
        10 ^ ((significant m e).2 - ((significant m e).1.length : Int)) =
      (shortest m e).1 * 10 ^ (shortest m e).2 := by
  have whole := trimmed_append_zeros (Nat.toDigits 10 (shortest m e).1)
  have lengths := congrArg List.length whole
  have values := congrArg natOf whole
  rw [List.length_append, List.length_replicate] at lengths
  rw [natOf_append_zeros, natOf_toDigits] at values
  rw [significant_eq]
  dsimp only
  conv_rhs => rw [← values]
  push_cast
  rw [mul_assoc, ← zpow_natCast, ← zpow_add₀ (by norm_num)]
  congr 2
  omega

private theorem significant_ne_nil (canonical : IsCanonical m e) (positive : 0 < m) :
    (significant m e).1 ≠ [] := by
  intro none
  have value := value_significant m e
  have low := (roundsTo_shortest canonical positive).low
  rw [none] at value
  rw [← value] at low
  have zero : (natOf [] : ℚ) = 0 := Nat.cast_zero
  rw [zero, zero_mul] at low
  exact absurd (lowEnd_pos positive e) (not_lt.mpr low)

/-- The decimal of a positive number stands for a real that rounds to it. -/
theorem denotes_significant (canonical : IsCanonical m e) (positive : 0 < m) :
    ∃ y, Denotes (decimalText (significant m e).1 (significant m e).2) y ∧ RoundsTo m e y := by
  refine ⟨_, denotes_decimalText (isDecimal_significant m e)
    (significant_ne_nil canonical positive) _, ?_⟩
  rw [value_significant]
  exact roundsTo_shortest canonical positive

end

theorem denotes_zero : Denotes ['0', '.', '0'] 0 := by
  have zero : IsDecimal ['0'] := isDecimal_zeros 1
  have mantissa : IsMantissa (['0'] ++ '.' :: ['0']) _ := .point zero (List.cons_ne_nil _ _) zero
  refine (Denotes.plain mantissa (by simp)).of_eq ?_
  have value : (natOf (['0'] ++ ['0']) : ℚ) = 0 := Nat.cast_zero
  rw [value, zero_mul]

section

variable {x y : Binary64}

/-- A finite number is written as a decimal that rounds to it, and zero as zero. -/
theorem denotes_unsignedText (spelling : Spelling) (finite : x.isFinite = true) :
    ∃ z, Denotes (x.unsignedText spelling) z ∧
      (x.mantissa = 0 ∧ z = 0 ∨ 0 < x.mantissa ∧ RoundsTo x.mantissa x.exponent z) := by
  unfold unsignedText
  rw [finite]
  simp only [Bool.not_true, Bool.false_eq_true, if_false]
  split
  · next zero => exact ⟨0, denotes_zero, Or.inl ⟨zero, rfl⟩⟩
  · next some =>
    have positive := Nat.pos_of_ne_zero some
    obtain ⟨z, denotes, rounds⟩ := denotes_significant (isCanonical x) positive
    exact ⟨z, denotes, Or.inr ⟨positive, rounds⟩⟩

theorem unsignedText_of_infinite (spelling : Spelling) (infinite : x.isFinite = false) :
    x.unsignedText spelling = spelling.infinity.toList := by
  rw [unsignedText, infinite]
  rfl

theorem exponent_of_mantissa_eq_zero (zero : x.mantissa = 0) : x.exponent = -1074 := by
  have canonical := isCanonical x
  have least := canonical.least
  have full := canonical.full
  omega

theorem RoundsTo.ne_zero {m : Nat} {e : Int} {z : ℚ} (rounds : RoundsTo m e z) (positive : 0 < m) :
    z ≠ 0 := ((lowEnd_pos positive e).trans_le rounds.low).ne'

/-- The text of a finite number tells its mantissa and exponent. -/
theorem parts_of_unsignedText {spelling : Spelling} (finite : x.isFinite = true)
    (finite' : y.isFinite = true) (same : x.unsignedText spelling = y.unsignedText spelling) :
    x.mantissa = y.mantissa ∧ x.exponent = y.exponent := by
  obtain ⟨z, denotes, value⟩ := denotes_unsignedText spelling finite
  obtain ⟨z', denotes', value'⟩ := denotes_unsignedText spelling finite'
  obtain rfl : z = z' := by rw [← denotes.reading_eq, same, denotes'.reading_eq]
  rcases value with ⟨zero, nothing⟩ | ⟨positive, rounds⟩
  · rcases value' with ⟨zero', -⟩ | ⟨positive', rounds'⟩
    · rw [zero, zero', exponent_of_mantissa_eq_zero zero, exponent_of_mantissa_eq_zero zero']
      exact ⟨rfl, rfl⟩
    · exact absurd nothing (rounds'.ne_zero positive')
  · rcases value' with ⟨-, nothing⟩ | ⟨-, rounds'⟩
    · exact absurd nothing (rounds.ne_zero positive)
    · exact roundsTo_unique (isCanonical x) (isCanonical y) rounds rounds'

theorem parts_of_infinite (infinite : x.isFinite = false) (number : x.isNaN = false) :
    x.mantissa = 2 ^ 52 ∧ x.exponent = 972 := by
  have bounded : x.exponentField < 2 ^ 11 := Nat.mod_lt _ (by decide)
  have reached : ¬ x.exponentField < 2047 := of_decide_eq_false infinite
  have greatest : x.exponentField = 2047 := by omega
  have whole : ¬ (x.exponentField = 2047 ∧ x.fractionField ≠ 0) := of_decide_eq_false number
  have nothing : x.fractionField = 0 := by
    by_contra some
    exact whole ⟨greatest, some⟩
  unfold mantissa exponent
  rw [greatest, nothing, pow2_eq]
  exact ⟨rfl, rfl⟩

theorem forall_mem_text {spelling : Spelling} {holds : Char → Prop}
    (digit : ∀ c, c.isDigit = true → holds c) (marks : ∀ c ∈ ['.', 'e', '+', '-'], holds c)
    (words : ∀ c ∈ spelling.infinity.toList ++ spelling.notANumber.toList, holds c)
    (x : Binary64) : ∀ c ∈ x.text spelling, holds c := by
  obtain ⟨infinity, notANumber⟩ := List.forall_mem_append.mp words
  cases number : x.isNaN with
  | true =>
    rw [text_of_isNaN spelling number]
    exact notANumber
  | false =>
    rw [text_of_isNaN_eq_false spelling number]
    refine List.forall_mem_append.mpr ⟨?_, ?_⟩
    · split
      · exact List.forall_mem_singleton.mpr (marks '-' (by decide))
      · exact fun _ member => absurd member List.not_mem_nil
    · cases finite : x.isFinite with
      | true =>
        obtain ⟨z, denotes, -⟩ := denotes_unsignedText spelling finite
        exact denotes.forall_mem digit marks
      | false =>
        rw [unsignedText_of_infinite spelling finite]
        exact infinity

/-- Words that are not taken for a decimal, nor one for the other. -/
structure Spelling.IsClear (spelling : Spelling) : Prop where
  infinity : ∃ c, spelling.infinity.toList.head? = some c ∧ c.isDigit = false ∧ c ≠ '-'
  notANumber : ∃ c, spelling.notANumber.toList.head? = some c ∧ c.isDigit = false ∧ c ≠ '-'
  apart : spelling.infinity.toList.head? ≠ spelling.notANumber.toList.head?

namespace Spelling.IsClear

variable {spelling : Spelling} (clear : spelling.IsClear)

include clear

theorem head?_unsignedText_ne (x : Binary64) : (x.unsignedText spelling).head? ≠ some '-' := by
  intro signed
  cases finite : x.isFinite with
  | true =>
    obtain ⟨z, denotes, -⟩ := denotes_unsignedText spelling finite
    obtain ⟨c, starts, digit⟩ := denotes.head?
    obtain rfl : '-' = c := Option.some.inj (signed.symm.trans starts)
    contradiction
  | false =>
    obtain ⟨c, starts, -, noSign⟩ := clear.infinity
    rw [unsignedText_of_infinite spelling finite, starts] at signed
    exact noSign (Option.some.inj signed)

theorem unsignedText_ne (finite : x.isFinite = true) (infinite : y.isFinite = false) :
    x.unsignedText spelling ≠ y.unsignedText spelling := by
  intro same
  obtain ⟨z, denotes, -⟩ := denotes_unsignedText spelling finite
  obtain ⟨c, starts, digit⟩ := denotes.head?
  obtain ⟨other, starts', noDigit, -⟩ := clear.infinity
  rw [same, unsignedText_of_infinite spelling infinite, starts'] at starts
  obtain rfl := Option.some.inj starts
  exact absurd (noDigit.symm.trans digit) Bool.false_ne_true

theorem text_ne (number : x.isNaN = false) : x.text spelling ≠ spelling.notANumber.toList := by
  intro same
  obtain ⟨other, starts', noDigit, noSign⟩ := clear.notANumber
  rw [text_of_isNaN_eq_false spelling number] at same
  have heads := congrArg List.head? same
  rw [starts'] at heads
  cases negative : x.isNegative with
  | true =>
    rw [negative] at heads
    exact noSign (Option.some.inj heads).symm
  | false =>
    rw [negative] at heads
    change (x.unsignedText spelling).head? = some other at heads
    cases finite : x.isFinite with
    | true =>
      obtain ⟨z, denotes, -⟩ := denotes_unsignedText spelling finite
      obtain ⟨c, starts, digit⟩ := denotes.head?
      obtain rfl := Option.some.inj (heads.symm.trans starts)
      exact absurd (noDigit.symm.trans digit) Bool.false_ne_true
    | false =>
      rw [unsignedText_of_infinite spelling finite] at heads
      exact clear.apart (heads.trans starts'.symm)

theorem sign_of_text (number : x.isNaN = false) (number' : y.isNaN = false)
    (same : x.text spelling = y.text spelling) :
    x.isNegative = y.isNegative ∧ x.unsignedText spelling = y.unsignedText spelling := by
  rw [text_of_isNaN_eq_false spelling number, text_of_isNaN_eq_false spelling number'] at same
  cases negative : x.isNegative with
  | true =>
    cases negative' : y.isNegative with
    | true =>
      rw [negative, negative'] at same
      exact ⟨rfl, List.append_cancel_left same⟩
    | false =>
      rw [negative, negative'] at same
      exact absurd (congrArg List.head? same.symm) (clear.head?_unsignedText_ne y)
  | false =>
    cases negative' : y.isNegative with
    | true =>
      rw [negative, negative'] at same
      exact absurd (congrArg List.head? same) (clear.head?_unsignedText_ne x)
    | false =>
      rw [negative, negative'] at same
      exact ⟨rfl, List.append_cancel_left same⟩

theorem parts_of_text (number : x.isNaN = false) (number' : y.isNaN = false)
    (same : x.unsignedText spelling = y.unsignedText spelling) :
    x.mantissa = y.mantissa ∧ x.exponent = y.exponent := by
  cases finite : x.isFinite with
  | true =>
    cases finite' : y.isFinite with
    | true => exact parts_of_unsignedText finite finite' same
    | false => exact absurd same (clear.unsignedText_ne finite finite')
  | false =>
    cases finite' : y.isFinite with
    | true => exact absurd same.symm (clear.unsignedText_ne finite' finite)
    | false =>
      obtain ⟨mantissa, exponent⟩ := parts_of_infinite finite number
      obtain ⟨mantissa', exponent'⟩ := parts_of_infinite finite' number'
      exact ⟨mantissa.trans mantissa'.symm, exponent.trans exponent'.symm⟩

/-- Two numbers with one text are one number, or neither is a number. -/
theorem eq_of_text (same : x.text spelling = y.text spelling) :
    x = y ∨ x.isNaN = true ∧ y.isNaN = true := by
  cases number : x.isNaN with
  | true =>
    cases number' : y.isNaN with
    | true => exact Or.inr ⟨rfl, rfl⟩
    | false =>
      rw [text_of_isNaN spelling number] at same
      exact absurd same.symm (clear.text_ne number')
  | false =>
    cases number' : y.isNaN with
    | true =>
      rw [text_of_isNaN spelling number'] at same
      exact absurd same (clear.text_ne number)
    | false =>
      obtain ⟨signs, unsigned⟩ := clear.sign_of_text number number' same
      obtain ⟨mantissas, exponents⟩ := clear.parts_of_text number number' unsigned
      exact Or.inl (eq_of_parts signs mantissas exponents)

/-- No number is printed as an integer is. -/
theorem exists_mem_text (x : Binary64) :
    ∃ c ∈ x.text spelling, c.isDigit = false ∧ c ≠ '-' := by
  cases number : x.isNaN with
  | true =>
    obtain ⟨c, starts, other⟩ := clear.notANumber
    rw [text_of_isNaN spelling number]
    exact ⟨c, List.mem_of_mem_head? starts, other⟩
  | false =>
    rw [text_of_isNaN_eq_false spelling number]
    cases finite : x.isFinite with
    | true =>
      obtain ⟨z, denotes, -⟩ := denotes_unsignedText spelling finite
      obtain ⟨c, member, other⟩ := denotes.exists_mem
      exact ⟨c, List.mem_append_right _ member, other⟩
    | false =>
      obtain ⟨c, starts, other⟩ := clear.infinity
      rw [unsignedText_of_infinite spelling finite]
      exact ⟨c, List.mem_append_right _ (List.mem_of_mem_head? starts), other⟩

end Spelling.IsClear

end

end DesignTokens.Binary64
