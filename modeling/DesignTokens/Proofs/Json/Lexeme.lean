import DesignTokens.Proofs.Json.Printer
import Mathlib.Data.List.Basic

/-! The lexemes of what is printed. Strings, words and integers are scanned as they were
written, and integers end where something closed comes behind them. -/
namespace DesignTokens.Json

open Text

theorem isDigit_eq (c : Char) : isDigit c = c.isDigit := by
  rw [isDigit, Char.isDigit, Bool.decide_and]
  rfl

theorem digitsValue_eq (digits : List Char) : digitsValue digits = Binary64.natOf digits := by
  have step : (fun (n : Nat) (c : Char) => n * 10 + (c.toNat - '0'.toNat)) =
      fun n c => 10 * n + (c.toNat - '0'.toNat) := by
    funext n c
    rw [Nat.mul_comm]
  rw [digitsValue, step]
  rfl

private theorem digitChar_eq_zero : ∀ n < 10, n.digitChar = '0' → n = 0 := by decide

/-- No number but zero is written with a zero in front. -/
theorem eq_zero_of_head?_toDigits {n : Nat} (zero : (Nat.toDigits 10 n).head? = some '0') :
    n = 0 := by
  induction n using Nat.strongRecOn with
  | ind n ih =>
    rw [Nat.toDigits_eq_if (by decide)] at zero
    split at zero
    · next small => exact digitChar_eq_zero n small (Option.some.inj zero)
    · next large =>
      rw [List.head?_append_of_ne_nil _ Nat.toDigits_ne_nil] at zero
      have none := ih (n / 10) (by omega) zero
      omega

theorem exists_toDigits (n : Nat) :
    ∃ c tail, Nat.toDigits 10 n = c :: tail ∧ c.isDigit = true := by
  obtain ⟨c, tail, digits⟩ := List.exists_cons_of_ne_nil (Nat.toDigits_ne_nil (b := 10) (n := n))
  exact ⟨c, tail, digits, Binary64.isDecimal_toDigits n c (digits ▸ List.mem_cons_self)⟩

private theorem span_isDigit {digits rest : List Char} (decimal : ∀ c ∈ digits, isDigit c = true)
    (closed : IsClosed rest) :
    (digits ++ rest).takeWhile isDigit = digits ∧ (digits ++ rest).dropWhile isDigit = rest := by
  rw [List.takeWhile_append_of_pos decimal, List.dropWhile_append_of_pos decimal]
  cases rest with
  | nil => simp
  | cons c more =>
    have stop : ¬isDigit c = true := by
      intro digit
      have bare := isBare_of_isDigit (isDigit_eq c ▸ digit)
      rw [closed c rfl] at bare
      contradiction
    rw [List.takeWhile_cons_of_neg stop, List.dropWhile_cons_of_neg stop, List.append_nil]
    exact ⟨rfl, rfl⟩

theorem scanWhole_toDigits (n : Nat) {rest : List Char} (closed : IsClosed rest) :
    scanWhole (Nat.toDigits 10 n ++ rest) = some (Nat.toDigits 10 n, rest) := by
  have decimal := Binary64.isDecimal_toDigits n
  obtain ⟨c, tail, digits, digit⟩ := exists_toDigits n
  by_cases zero : c = '0'
  · subst zero
    obtain rfl := eq_zero_of_head?_toDigits (n := n) (by rw [digits]; rfl)
    rfl
  · rw [digits] at decimal ⊢
    obtain ⟨-, decimal⟩ := List.forall_mem_cons.mp decimal
    obtain ⟨taken, dropped⟩ := span_isDigit (fun d member => isDigit_eq d ▸ decimal d member) closed
    rw [List.cons_append, scanWhole, if_neg zero, isDigit_eq, if_pos digit, taken, dropped]

theorem scanFraction_of_closed {rest : List Char} (closed : IsClosed rest) :
    scanFraction rest = (none, rest) := by
  fun_cases scanFraction rest with
  | case1 =>
    have bare := closed _ rfl
    contradiction
  | case2 | case3 => rfl

theorem scanExponent_of_closed {rest : List Char} (closed : IsClosed rest) :
    scanExponent rest = (none, rest) := by
  cases rest with
  | nil => rfl
  | cons e more =>
    have plain : ¬(e = 'e' ∨ e = 'E') := by
      rintro (rfl | rfl)
      all_goals
        have bare := closed _ rfl
        contradiction
    rw [scanExponent]
    exact if_neg fun exponent => plain exponent.1

theorem ne_of_isDigit {c mark : Char} (digit : c.isDigit = true) (noDigit : mark.isDigit = false) :
    mark ≠ c := by
  rintro rfl
  rw [digit] at noDigit
  contradiction

private theorem scanSign_text (n : Int) (rest : List Char) :
    scanSign (Numeral.text n ++ rest) =
      (decide (n < 0), Nat.toDigits 10 n.natAbs ++ rest) := by
  rw [integerText_eq]
  split
  · next negative => rw [List.cons_append, scanSign, decide_eq_true negative]
  · next positive =>
    obtain ⟨c, tail, digits, digit⟩ := exists_toDigits n.natAbs
    rw [decide_eq_false positive, digits, List.cons_append, scanSign.eq_def]
    split
    · next same => exact absurd (List.cons.inj same).1.symm (ne_of_isDigit digit rfl)
    · rfl

/-- Integers are scanned as they were printed, whatever closed text comes behind. -/
theorem scanNumber_text (n : Int) {rest : List Char} (closed : IsClosed rest) :
    scanNumber (Numeral.text n ++ rest) = some (.int n, rest) := by
  have value : digitsValue (Nat.toDigits 10 n.natAbs) = n.natAbs := by
    rw [digitsValue_eq, Binary64.natOf_toDigits]
  have signed : (if decide (n < 0) = true then -(n.natAbs : Int) else n.natAbs) = n := by
    split
    · next negative => exact (Int.eq_neg_natAbs_of_nonpos (of_decide_eq_true negative).le).symm
    · next positive =>
      exact Int.natAbs_of_nonneg (not_lt.mp fun negative => positive (decide_eq_true negative))
  simp only [scanNumber, scanSign_text, scanWhole_toDigits n.natAbs closed,
    scanFraction_of_closed closed, scanExponent_of_closed closed, value, signed,
    Option.bind_eq_bind, Option.bind_some]
  rfl

/-- An integer is scanned back from its text, so that no other has the same. -/
theorem text_inj {n n' : Int} (same : Numeral.text n = Numeral.text n') : n = n' := by
  have closed : IsClosed [] := nofun
  have scanned := scanNumber_text n closed
  rw [same, scanNumber_text n' closed] at scanned
  exact (Value.int.inj (Prod.mk.inj (Option.some.inj scanned)).1).symm

private theorem scanWord_of_isDigit {c : Char} (digit : c.isDigit = true) (rest : List Char) :
    scanWord (c :: rest) = none := by
  simp [scanWord, words, afterWord?, ne_of_isDigit digit]

/-- Only an infinity begins with a sign and is no number in digits. -/
private theorem scanWord_of_minus {c : Char} (digit : c.isDigit = true) (rest : List Char) :
    scanWord ('-' :: c :: rest) = none := by
  simp [scanWord, words, afterWord?, ne_of_isDigit digit]

theorem scanWord_text (n : Int) (rest : List Char) :
    scanWord (Numeral.text n ++ rest) = none := by
  obtain ⟨c, tail, digits, digit⟩ := exists_toDigits n.natAbs
  rw [integerText_eq, digits]
  split
  · exact scanWord_of_minus digit _
  · exact scanWord_of_isDigit digit _

/-- A text goes on with a lexeme, and then with the rest. -/
def Begins (token : Token) (text rest : List Char) : Prop :=
  ∀ line, lexemes line text = (⟨token, line⟩ :: (lexemes line rest).1, (lexemes line rest).2)

theorem begins_punctuation {c : Char} {token : Token} (mark : punctuation? c = some token)
    (rest : List Char) : Begins token (c :: rest) rest := by
  intro line
  have ink : ¬isSpace c = true := by
    intro space
    rcases of_decide_eq_true space with rfl | rfl | rfl | rfl <;> contradiction
  rw [lexemes, if_neg ink]
  simp only [mark]

theorem begins_string (s : String) (rest : List Char) :
    Begins (.string s) (stringText s ++ rest) rest := by
  intro line
  have opened : stringText s ++ rest = '"' :: (s.toList.flatMap escaped ++ '"' :: rest) := by
    simp [stringText]
  have scanned := scanString_stringText s.toList rest
  have ink : ¬isSpace '"' = true := by decide
  have plain : punctuation? '"' = none := rfl
  rw [opened, lexemes, if_neg ink]
  simp only [plain, if_pos]
  split
  · next t more found =>
    obtain ⟨rfl, rfl⟩ := Prod.mk.inj (Except.ok.inj (scanned.symm.trans found))
    rw [String.ofList_toList]
  · next fault found => rw [scanned] at found; contradiction

/-- Words are tried before numbers. -/
theorem begins_scalar {c : Char} (bare : isBare c = true) {rest more : List Char} {v : Value}
    (scanned : (scanWord (c :: rest)).or (scanNumber (c :: rest)) = some (v, more)) :
    Begins (.scalar v) (c :: rest) more := by
  intro line
  have ink : ¬isSpace c = true := by
    intro space
    rcases of_decide_eq_true space with rfl | rfl | rfl | rfl <;> contradiction
  have plain : punctuation? c = none := by
    fun_cases punctuation? c with
    | case7 => rfl
    | _ => contradiction
  have unquoted : c ≠ '"' := by
    rintro rfl
    contradiction
  rw [lexemes, if_neg ink]
  simp only [plain, if_neg unquoted]
  split
  · next w rest' word =>
    rw [word] at scanned
    obtain ⟨rfl, rfl⟩ := Prod.mk.inj (Option.some.inj scanned)
    rfl
  · next word =>
    rw [word, Option.none_or] at scanned
    split
    · next w rest' number =>
      obtain ⟨rfl, rfl⟩ := Prod.mk.inj (Option.some.inj (number.symm.trans scanned))
      rfl
    · next number =>
      rw [number] at scanned
      contradiction

/-- Words are printed in one way. -/
theorem valueText_of_lead? {v : Value} (word : lead? v = none) (indent : Indent) (depth : Nat) :
    valueText indent depth v = valueText none 0 v := by
  cases v with
  | bool b =>
    cases b with
    | false | true => rw [valueText, valueText]
  | null | int | float => rw [valueText, valueText]
  | _ => contradiction

/-- A word or an integer as it is printed, whatever closed text comes behind. -/
theorem begins_word {v : Value} (word : lead? v = none) {rest : List Char}
    (scanned : (scanWord (valueText none 0 v ++ rest)).or
      (scanNumber (valueText none 0 v ++ rest)) = some (v, rest)) :
    Begins (.scalar v) (valueText none 0 v ++ rest) rest := by
  have bare := isBare_of_mem_valueText word none 0
  obtain ⟨c, more, text⟩ := List.exists_cons_of_ne_nil (valueText_ne_nil v 0)
  rw [text] at scanned bare ⊢
  exact begins_scalar (bare c List.mem_cons_self) scanned

end DesignTokens.Json
