import DesignTokens.Binary64.Shortest
import Mathlib.Tactic.Linarith
import Mathlib.Tactic.NormNum
import Mathlib.Tactic.Ring

/-! The reals that round to a finite number, as an interval of rationals. Intervals of
different numbers have no point in common, and the search for the fewest digits ends
with a decimal inside the interval that it searches. -/
namespace DesignTokens.Binary64

theorem pow2_eq (n : Nat) : pow2 n = 2 ^ n := rfl

namespace Quotient

def value (q : Quotient) : ℚ := q.num / q.den

variable {p q : Quotient}

theorem le_iff (hp : 0 < p.den) (hq : 0 < q.den) : p.le q = true ↔ p.value ≤ q.value := by
  rw [value, value, div_le_div_iff₀ (Nat.cast_pos.mpr hp) (Nat.cast_pos.mpr hq), le,
    decide_eq_true_iff]
  exact_mod_cast Iff.rfl

theorem lt_iff (hp : 0 < p.den) (hq : 0 < q.den) : p.lt q = true ↔ p.value < q.value := by
  rw [value, value, div_lt_div_iff₀ (Nat.cast_pos.mpr hp) (Nat.cast_pos.mpr hq), lt,
    decide_eq_true_iff]
  exact_mod_cast Iff.rfl

theorem den_scaleUp {base : Nat} (positive : 0 < base) (power : Int) (hq : 0 < q.den) :
    0 < (q.scaleUp base power).den :=
  Nat.mul_pos hq (Nat.pow_pos positive)

private theorem zpow_eq_div (base : ℚ) (power : Int) :
    base ^ power = base ^ power.toNat / base ^ (-power).toNat := by
  cases power with
  | ofNat n => simp
  | negSucc n =>
    rw [zpow_negSucc, Int.neg_negSucc, Int.toNat_natCast, Int.toNat_negSucc, pow_zero, one_div]

theorem value_scaleUp (base : Nat) (power : Int) :
    (q.scaleUp base power).value = q.value * (base : ℚ) ^ power := by
  simp only [zpow_eq_div, value, scaleUp, Nat.pow_eq, Nat.cast_mul, Nat.cast_pow]
  rw [div_mul_div_comm]

theorem value_natural (n : Nat) : value ⟨n, 1⟩ = n := by simp [value]

theorem floor_le_value (hq : 0 < q.den) : (q.floor : ℚ) ≤ q.value := by
  rw [value, le_div_iff₀ (Nat.cast_pos.mpr hq), floor]
  exact_mod_cast Nat.div_mul_le_self q.num q.den

theorem value_lt_floor_succ (hq : 0 < q.den) : q.value < q.floor + 1 := by
  rw [value, div_lt_iff₀ (Nat.cast_pos.mpr hq), floor]
  exact_mod_cast Nat.lt_mul_of_div_lt (Nat.lt_succ_self _) hq

private theorem pow_digitCount_le {n : Nat} (positive : 0 < n) : 10 ^ (digitCount n - 1) ≤ n := by
  by_contra less
  have more : digitCount n ≠ 1 := by
    intro one
    rw [one] at less
    exact less positive
  have some : 0 < digitCount n := Nat.length_toDigits_pos
  have := (Nat.length_toDigits_le_iff (by decide) (by omega)).mpr (Nat.lt_of_not_le less)
  rw [← digitCount] at this
  omega

private theorem lt_pow_digitCount (n : Nat) : n < 10 ^ digitCount n :=
  (Nat.length_toDigits_le_iff (by decide) Nat.length_toDigits_pos).mp (Nat.le_refl _)

/-- A positive quotient reaches the power of ten below its magnitude. -/
theorem pow_magnitude_le (hq : 0 < q.den) (positive : 0 < q.num) :
    (10 : ℚ) ^ (q.magnitude - 1) ≤ q.value := by
  rw [magnitude]
  split
  · next reached =>
    rw [le_iff (den_scaleUp (by decide) _ Nat.one_pos) hq, value_scaleUp, value_natural] at reached
    simpa using reached
  · have num : (10 : ℚ) ^ (digitCount q.num - 1) ≤ q.num := by
      exact_mod_cast pow_digitCount_le positive
    have den : (q.den : ℚ) ≤ 10 ^ digitCount q.den := by
      exact_mod_cast Nat.le_of_lt (lt_pow_digitCount q.den)
    have some : 1 ≤ digitCount q.num := Nat.length_toDigits_pos
    calc (10 : ℚ) ^ ((digitCount q.num : Int) - digitCount q.den - 1)
        = 10 ^ (((digitCount q.num - 1 : Nat) : Int) - digitCount q.den) := by
          congr 1
          omega
      _ = 10 ^ (digitCount q.num - 1) / 10 ^ digitCount q.den := by
          rw [zpow_sub₀ (by norm_num), zpow_natCast, zpow_natCast]
      _ ≤ q.value := by
          rw [value]
          exact div_le_div₀ (Nat.cast_nonneg _) num (Nat.cast_pos.mpr hq) den

end Quotient

/-- Mantissa and exponent as a finite number has them: of 53 bits above the least
exponent. -/
structure IsCanonical (mantissa : Nat) (exponent : Int) : Prop where
  lt : mantissa < 2 ^ 53
  least : -1074 ≤ exponent
  full : -1074 < exponent → 2 ^ 52 ≤ mantissa

/-- Four times the distance to the lower end, in units of the last place. -/
def gap (mantissa : Nat) (exponent : Int) : Nat :=
  if mantissa = pow2 52 ∧ -1074 < exponent then 1 else 2

def lowEnd (mantissa : Nat) (exponent : Int) : ℚ :=
  (4 * mantissa - gap mantissa exponent) * 2 ^ (exponent - 2)

def highEnd (mantissa : Nat) (exponent : Int) : ℚ := (4 * mantissa + 2) * 2 ^ (exponent - 2)

/-- Between the ends, and at neither of them if the mantissa is odd. -/
structure RoundsTo (mantissa : Nat) (exponent : Int) (x : ℚ) : Prop where
  low : lowEnd mantissa exponent ≤ x
  high : x ≤ highEnd mantissa exponent
  between : mantissa % 2 = 1 → lowEnd mantissa exponent < x ∧ x < highEnd mantissa exponent

variable {m n : Nat} {e f : Int}

theorem one_le_gap (m : Nat) (e : Int) : 1 ≤ gap m e ∧ gap m e ≤ 2 := by
  unfold gap
  split <;> omega

/-- The ends in integers, in units of a quarter of the last place of the lesser number. -/
theorem ends_apart_same (h : m < n) :
    4 * m + 2 + gap n e ≤ 4 * n ∧ (m % 2 = 0 → n % 2 = 0 → 4 * m + 2 + gap n e < 4 * n) := by
  have := one_le_gap n e
  omega

private theorem ends_apart_less (hm : IsCanonical m e) (hn : IsCanonical n f) (h : e < f) :
    4 * m + 2 + 2 * gap n f ≤ 2 * (4 * n) ∧
      (m % 2 = 0 → 4 * m + 2 + 2 * gap n f < 2 * (4 * n)) := by
  have above : -1074 < f := Int.lt_of_le_of_lt hm.least h
  have full := hn.full above
  have bounded := hm.lt
  have least : gap n f = 1 ∧ n = 2 ^ 52 ∨ gap n f = 2 ∧ 2 ^ 52 < n := by
    unfold gap
    rw [pow2_eq]
    split
    · next both => exact Or.inl ⟨rfl, both.1⟩
    · next other =>
      have different : n ≠ 2 ^ 52 := fun equal => other ⟨equal, above⟩
      exact Or.inr ⟨rfl, by omega⟩
  omega

theorem zpow_ulp_pos (e : Int) : (0 : ℚ) < 2 ^ (e - 2) := zpow_pos two_pos _

/-- The interval of the lesser number ends where that of the greater begins, or below. -/
theorem highEnd_le_lowEnd (hm : IsCanonical m e) (hn : IsCanonical n f)
    (h : e < f ∨ e = f ∧ m < n) :
    highEnd m e ≤ lowEnd n f ∧ (m % 2 = 0 → n % 2 = 0 → highEnd m e < lowEnd n f) := by
  unfold highEnd lowEnd
  rcases h with less | ⟨rfl, less⟩
  · obtain ⟨apart, apart_even⟩ := ends_apart_less hm hn less
    have doubled : (2 : ℚ) * 2 ^ (e - 2) ≤ 2 ^ (f - 2) := by
      rw [← zpow_one_add₀ two_ne_zero]
      exact zpow_le_zpow_right₀ one_le_two (by omega)
    have positive : (0 : ℚ) ≤ 4 * n - gap n f := by
      have : gap n f ≤ 4 * n := by omega
      have : (gap n f : ℚ) ≤ 4 * n := by exact_mod_cast this
      linarith
    have far := mul_le_mul_of_nonneg_left doubled positive
    refine ⟨le_trans ?_ far, fun even _ => lt_of_lt_of_le ?_ far⟩
    · have : (4 * m + 2 + 2 * gap n f : ℚ) ≤ 2 * (4 * n) := by exact_mod_cast apart
      rw [← mul_assoc]
      exact mul_le_mul_of_nonneg_right (by linarith) (zpow_ulp_pos e).le
    · have : (4 * m + 2 + 2 * gap n f : ℚ) < 2 * (4 * n) := by exact_mod_cast apart_even even
      rw [← mul_assoc]
      exact mul_lt_mul_of_pos_right (by linarith) (zpow_ulp_pos e)
  · obtain ⟨apart, apart_even⟩ := ends_apart_same (e := e) less
    refine ⟨mul_le_mul_of_nonneg_right ?_ (zpow_ulp_pos e).le,
      fun even even' => mul_lt_mul_of_pos_right ?_ (zpow_ulp_pos e)⟩
    · have : (4 * m + 2 + gap n e : ℚ) ≤ 4 * n := by exact_mod_cast apart
      linarith
    · have : (4 * m + 2 + gap n e : ℚ) < 4 * n := by exact_mod_cast apart_even even even'
      linarith

theorem not_roundsTo_both {x : ℚ} (hm : IsCanonical m e) (hn : IsCanonical n f)
    (h : e < f ∨ e = f ∧ m < n) (rounds : RoundsTo m e x) : ¬ RoundsTo n f x := by
  intro rounds'
  obtain ⟨apart, apart_even⟩ := highEnd_le_lowEnd hm hn h
  have high := rounds.high
  have low := rounds'.low
  rcases Nat.mod_two_eq_zero_or_one m with even | odd
  · rcases Nat.mod_two_eq_zero_or_one n with even' | odd'
    · exact absurd (high.trans_lt (apart_even even even')) (not_lt.mpr low)
    · exact absurd ((high.trans apart).trans_lt (rounds'.between odd').1) (lt_irrefl x)
  · exact absurd ((rounds.between odd).2.trans_le (apart.trans low)) (lt_irrefl x)

/-- A real rounds to one finite number only. -/
theorem roundsTo_unique {x : ℚ} (hm : IsCanonical m e) (hn : IsCanonical n f)
    (rounds : RoundsTo m e x) (rounds' : RoundsTo n f x) : m = n ∧ e = f := by
  rcases lt_trichotomy e f with less | rfl | more
  · exact absurd rounds' (not_roundsTo_both hm hn (Or.inl less) rounds)
  · rcases lt_trichotomy m n with less | rfl | more
    · exact absurd rounds' (not_roundsTo_both hm hn (Or.inr ⟨rfl, less⟩) rounds)
    · exact ⟨rfl, rfl⟩
    · exact absurd rounds (not_roundsTo_both hn hm (Or.inr ⟨rfl, more⟩) rounds')
  · exact absurd rounds (not_roundsTo_both hn hm (Or.inl more) rounds')

theorem holds_interval_iff (positive : 0 < m) (q : Quotient) (hq : 0 < q.den) :
    (interval m e).holds q = true ↔ RoundsTo m e q.value := by
  have least : gap m e ≤ 4 * m := by have := one_le_gap m e; omega
  have low_den := Quotient.den_scaleUp (q := ⟨4 * m - gap m e, 1⟩) two_pos (e - 2) Nat.one_pos
  have high_den := Quotient.den_scaleUp (q := ⟨4 * m + 2, 1⟩) two_pos (e - 2) Nat.one_pos
  have low_value : (Quotient.scaleUp 2 (e - 2) ⟨4 * m - gap m e, 1⟩).value = lowEnd m e := by
    rw [Quotient.value_scaleUp, Quotient.value_natural, lowEnd, Nat.cast_sub least]
    push_cast
    rfl
  have high_value : (Quotient.scaleUp 2 (e - 2) ⟨4 * m + 2, 1⟩).value = highEnd m e := by
    rw [Quotient.value_scaleUp, Quotient.value_natural, highEnd]
    push_cast
    rfl
  change (if decide (m % 2 = 0) then
      (Quotient.scaleUp 2 (e - 2) ⟨4 * m - gap m e, 1⟩).le q &&
        q.le (Quotient.scaleUp 2 (e - 2) ⟨4 * m + 2, 1⟩)
    else (Quotient.scaleUp 2 (e - 2) ⟨4 * m - gap m e, 1⟩).lt q &&
        q.lt (Quotient.scaleUp 2 (e - 2) ⟨4 * m + 2, 1⟩)) = true ↔ _
  rcases Nat.mod_two_eq_zero_or_one m with even | odd
  · rw [if_pos (decide_eq_true even), Bool.and_eq_true, Quotient.le_iff low_den hq,
      Quotient.le_iff hq high_den, low_value, high_value]
    constructor
    · rintro ⟨low, high⟩
      exact ⟨low, high, fun odd => by omega⟩
    · exact fun rounds => ⟨rounds.low, rounds.high⟩
  · rw [if_neg (by simp [odd]), Bool.and_eq_true, Quotient.lt_iff low_den hq,
      Quotient.lt_iff hq high_den, low_value, high_value]
    constructor
    · rintro ⟨low, high⟩
      exact ⟨low.le, high.le, fun _ => ⟨low, high⟩⟩
    · exact fun rounds => rounds.between odd

theorem holds_of_gridPoint? {i : Interval} {power : Int} {n : Nat}
    (found : gridPoint? i power = some n) :
    i.holds (Quotient.scaleUp 10 power ⟨n, 1⟩) = true := by
  unfold gridPoint? at found
  dsimp only at found
  split at found
  · next below _ =>
    obtain rfl := Option.some.inj found
    exact below
  · next _ above =>
    obtain rfl := Option.some.inj found
    exact above
  · contradiction
  · next below above =>
    split at found
    · obtain rfl := Option.some.inj found
      exact below
    · split at found
      · obtain rfl := Option.some.inj found
        exact above
      · split at found
        all_goals
          obtain rfl := Option.some.inj found
          assumption

theorem holds_of_gridPoint?_eq_none {i : Interval} {power : Int}
    (missing : gridPoint? i power = none) :
    i.holds (Quotient.scaleUp 10 power ⟨(i.value.scaleUp 10 (-power)).floor, 1⟩) = false ∧
      i.holds (Quotient.scaleUp 10 power ⟨(i.value.scaleUp 10 (-power)).floor + 1, 1⟩) = false := by
  unfold gridPoint? at missing
  dsimp only at missing
  split at missing
  · contradiction
  · contradiction
  · next below above => exact ⟨below, above⟩
  · split at missing
    · contradiction
    · split at missing
      · contradiction
      · split at missing
        all_goals contradiction

theorem roundsTo_of_lt {x : ℚ} (low : lowEnd m e < x) (high : x < highEnd m e) : RoundsTo m e x :=
  ⟨low.le, high.le, fun _ => ⟨low, high⟩⟩

theorem four_mul_lt (canonical : IsCanonical m e) : 4 * m < 10 ^ 16 * (2 + gap m e) := by
  have bounded := canonical.lt
  unfold gap
  rw [pow2_eq]
  split
  all_goals omega

theorem value_at10 (power : Int) (n : Nat) :
    (Quotient.scaleUp 10 power ⟨n, 1⟩).value = n * (10 : ℚ) ^ power := by
  rw [Quotient.value_scaleUp, Quotient.value_natural]
  rfl

theorem den_at10 (power : Int) (n : Nat) : 0 < (Quotient.scaleUp 10 power ⟨n, 1⟩).den :=
  Quotient.den_scaleUp (by decide) power Nat.one_pos

/-- The multiples of a power of ten that enclose a quotient. -/
private theorem floor_encloses {q : Quotient} (hq : 0 < q.den) (power : Int) :
    ((q.scaleUp 10 (-power)).floor : ℚ) * 10 ^ power ≤ q.value ∧
      q.value < ((q.scaleUp 10 (-power)).floor + 1 : ℚ) * 10 ^ power := by
  have den := Quotient.den_scaleUp (q := q) (by decide : 0 < 10) (-power) hq
  have scaled : (q.scaleUp 10 (-power)).value * 10 ^ power = q.value := by
    rw [Quotient.value_scaleUp, zpow_neg]
    exact inv_mul_cancel_right₀ (zpow_ne_zero power (by norm_num)) _
  have positive : (0 : ℚ) < 10 ^ power := zpow_pos (by norm_num) power
  rw [← scaled]
  exact ⟨mul_le_mul_of_nonneg_right (Quotient.floor_le_value den) positive.le,
    mul_lt_mul_of_pos_right (Quotient.value_lt_floor_succ den) positive⟩

/-- With seventeen digits two neighbours on the grid are less apart than the ends are, so one
of those around the number lies between the ends. -/
theorem exists_gridPoint (canonical : IsCanonical m e) (positive : 0 < m) :
    ∃ n, gridPoint? (interval m e) ((interval m e).value.magnitude - 17) = some n := by
  have value_eq : (interval m e).value.value = 4 * m * (2 : ℚ) ^ (e - 2) := by
    change (Quotient.scaleUp 2 (e - 2) ⟨4 * m, 1⟩).value = _
    rw [Quotient.value_scaleUp, Quotient.value_natural]
    push_cast
    rfl
  have den : 0 < (interval m e).value.den := Quotient.den_scaleUp two_pos _ Nat.one_pos
  have num : 0 < (interval m e).value.num :=
    Nat.mul_pos (Nat.mul_pos four_pos positive) (Nat.pow_pos two_pos)
  generalize hp : (interval m e).value.magnitude - 17 = power
  have reached : (10 : ℚ) ^ 16 * 10 ^ power ≤ (interval m e).value.value := by
    refine le_of_eq_of_le ?_ (Quotient.pow_magnitude_le den num)
    rw [← zpow_natCast, ← zpow_add₀ (by norm_num)]
    congr 1
    omega
  obtain ⟨below_le, lt_above⟩ := floor_encloses den power
  by_contra missing
  obtain ⟨below, above⟩ :=
    holds_of_gridPoint?_eq_none
      (Option.eq_none_iff_forall_ne_some.mpr fun n found => missing ⟨n, found⟩)
  rw [← Bool.not_eq_true, holds_interval_iff positive _ (den_at10 _ _), value_at10] at below above
  push_cast at above
  have ulp := zpow_ulp_pos e
  have gap_pos : (1 : ℚ) ≤ gap m e := by exact_mod_cast (one_le_gap m e).1
  have low : ((interval m e).value.scaleUp 10 (-power)).floor * (10 : ℚ) ^ power ≤ lowEnd m e := by
    by_contra inside
    refine below (roundsTo_of_lt (lt_of_not_ge inside) (below_le.trans_lt ?_))
    rw [value_eq, highEnd]
    exact mul_lt_mul_of_pos_right (by linarith) ulp
  have high : highEnd m e ≤
      (((interval m e).value.scaleUp 10 (-power)).floor + 1 : ℚ) * (10 : ℚ) ^ power := by
    by_contra inside
    refine above (roundsTo_of_lt (lt_of_le_of_lt ?_ lt_above) (lt_of_not_ge inside))
    rw [value_eq, lowEnd]
    exact mul_le_mul_of_nonneg_right (by linarith) ulp.le
  have wide : (2 + gap m e) * (2 : ℚ) ^ (e - 2) ≤ 10 ^ power := by
    have apart : highEnd m e - lowEnd m e = (2 + gap m e) * (2 : ℚ) ^ (e - 2) := by
      rw [highEnd, lowEnd]
      ring
    linarith
  have less : (4 * m : ℚ) < 10 ^ 16 * (2 + gap m e) := by exact_mod_cast four_mul_lt canonical
  have := mul_lt_mul_of_pos_right less ulp
  rw [value_eq] at reached
  linarith

private theorem mem_grids {top : Int} :
    top - 17 ∈ (List.range 17).map fun (count : Nat) => top - ((count : Int) + 1) :=
  List.mem_map.mpr ⟨16, by decide, by omega⟩

/-- The decimal of the fewest digits lies in the interval, and there is one. -/
theorem roundsTo_shortest (canonical : IsCanonical m e) (positive : 0 < m) :
    RoundsTo m e ((shortest m e).1 * 10 ^ (shortest m e).2) := by
  obtain ⟨n, last⟩ := exists_gridPoint canonical positive
  unfold shortest
  dsimp only
  cases found : List.findSome? _ _ with
  | none =>
    have missing := List.findSome?_eq_none_iff.mp found _ mem_grids
    rw [last] at missing
    contradiction
  | some result =>
    obtain ⟨power, -, point⟩ := List.exists_of_findSome?_eq_some found
    obtain ⟨digits, inside, rfl⟩ := Option.map_eq_some_iff.mp point
    rw [Option.getD_some, ← value_at10]
    exact (holds_interval_iff positive _ (den_at10 _ _)).mp (holds_of_gridPoint? inside)

theorem isCanonical (x : Binary64) : IsCanonical x.mantissa x.exponent := by
  have fraction : x.fractionField < 2 ^ 52 := Nat.mod_lt _ (by decide)
  unfold mantissa exponent
  rw [pow2_eq]
  refine ⟨?_, ?_, ?_⟩
  · split <;> omega
  · omega
  · split <;> omega

theorem toNat_bits (x : Binary64) :
    x.bits.toNat =
      (if x.isNegative then 2 ^ 63 else 0) + x.exponentField * 2 ^ 52 + x.fractionField := by
  have bounded := x.bits.toNat_lt
  have negative : x.isNegative = true ↔ 2 ^ 63 ≤ x.bits.toNat := decide_eq_true_iff
  unfold exponentField fractionField
  simp only [pow2_eq]
  split
  · next h =>
    have := negative.mp h
    omega
  · next h =>
    have := mt negative.mpr h
    omega

/-- Sign, mantissa and exponent tell finite numbers apart. -/
theorem eq_of_parts {x y : Binary64} (sign : x.isNegative = y.isNegative)
    (mantissas : x.mantissa = y.mantissa) (exponents : x.exponent = y.exponent) : x = y := by
  have fraction : x.fractionField < 2 ^ 52 := Nat.mod_lt _ (by decide)
  have fraction' : y.fractionField < 2 ^ 52 := Nat.mod_lt _ (by decide)
  have fields : x.exponentField = y.exponentField ∧ x.fractionField = y.fractionField := by
    unfold mantissa at mantissas
    unfold exponent at exponents
    rw [pow2_eq] at mantissas
    split at mantissas <;> split at mantissas <;> omega
  have bits : x.bits.toNat = y.bits.toNat := by
    rw [toNat_bits, toNat_bits, sign, fields.1, fields.2]
  exact congrArg mk (UInt64.toNat_inj.mp bits)

end DesignTokens.Binary64
