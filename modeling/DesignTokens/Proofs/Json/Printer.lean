import DesignTokens.Json.Lexeme
import DesignTokens.Json.Printer
import DesignTokens.Proofs.Binary64.Text
import DesignTokens.Proofs.Value.WellKeyed

/-! JSON text on one line is read in one way only: no text of a value begins that of
another, so a text tells its value apart from every other but for the payload of
what is no number. -/
namespace DesignTokens

namespace Json

open Text

private theorem codeUnit?_hexDigits :
    ∀ n < 32, codeUnit? '0' '0' (hexDigit (n / 16)) (hexDigit (n % 16)) = some n := by
  decide

/-- What is escaped is scanned as the character it stands for. -/
theorem scanString_escaped (c : Char) {more : List Char} (some : more ≠ []) :
    scanString none (escaped c ++ more) = (scanString none more).after [c] := by
  fun_cases escaped c with
  | case1 mark =>
    rcases mark with rfl | rfl
    all_goals
      rw [scanString.eq_def]
      rfl
  | case2 | case3 | case4 | case5 | case6 =>
    rename_i same
    subst same
    rw [scanString.eq_def]
    rfl
  | case7 plain _ _ _ _ _ control =>
    obtain ⟨next, tail, rfl⟩ := List.exists_cons_of_ne_nil some
    have unit := codeUnit?_hexDigits c.toNat control
    have high : isHighSurrogate c.toNat = false := decide_eq_false (by omega)
    have low : isLowSurrogate c.toNat = false := decide_eq_false (by omega)
    rw [scanString.eq_def]
    simp [unit, joined, high, low]
  | case8 plain _ _ _ _ _ printed =>
    obtain ⟨noQuote, noEscape⟩ := not_or.mp plain
    rw [List.singleton_append, scanString.eq_def]
    simp only [if_neg noQuote, if_neg noEscape, if_neg printed]
    rfl

/-- A string is scanned back up to its closing quote. -/
theorem scanString_stringText (chars rest : List Char) :
    scanString none (chars.flatMap escaped ++ '"' :: rest) = .ok (chars, rest) := by
  induction chars with
  | nil =>
    unfold scanString
    rfl
  | cons c chars ih =>
    have some : chars.flatMap escaped ++ '"' :: rest ≠ [] := by simp
    rw [List.flatMap_cons, List.append_assoc, scanString_escaped c some, ih]
    rfl

theorem stringText_append_inj {s t : String} {rest rest' : List Char}
    (same : stringText s ++ rest = stringText t ++ rest') : s = t ∧ rest = rest' := by
  simp only [stringText, List.cons_append, List.append_assoc, List.nil_append] at same
  have scanned := congrArg (scanString none) (List.cons.inj same).2
  rw [scanString_stringText, scanString_stringText] at scanned
  obtain ⟨chars, rests⟩ := Prod.mk.inj (Except.ok.inj scanned)
  exact ⟨String.toList_inj.mp chars, rests⟩

/-- A character of what is printed without brackets or quotes. -/
def isBare (c : Char) : Bool := c.isAlphanum || c = '+' || c = '-' || c = '.'

def IsClosed (rest : List Char) : Prop := ∀ c ∈ rest.head?, isBare c = false

theorem isClosed_cons {c : Char} (mark : isBare c = false) (rest : List Char) :
    IsClosed (c :: rest) := by
  intro other member
  obtain rfl := Option.some.inj member
  exact mark

/-- Nothing that is bare goes on behind a word. -/
theorem takeWhile_append_closed {word rest : List Char} (bare : ∀ c ∈ word, isBare c = true)
    (closed : IsClosed rest) : (word ++ rest).takeWhile isBare = word := by
  rw [List.takeWhile_append_of_pos bare]
  cases rest with
  | nil => simp
  | cons c more =>
    rw [List.takeWhile_cons_of_neg (by rw [closed c rfl]; exact Bool.false_ne_true),
      List.append_nil]

theorem append_inj_of_bare {word word' rest rest' : List Char} (bare : ∀ c ∈ word, isBare c = true)
    (bare' : ∀ c ∈ word', isBare c = true) (closed : IsClosed rest) (closed' : IsClosed rest')
    (same : word ++ rest = word' ++ rest') : word = word' ∧ rest = rest' := by
  have words := congrArg (List.takeWhile isBare) same
  rw [takeWhile_append_closed bare closed, takeWhile_append_closed bare' closed'] at words
  subst words
  exact ⟨rfl, List.append_cancel_left same⟩

/-- The bracket or quote that the text of a value begins with. -/
def lead? : Value → Option Char
  | .str _ => some '"'
  | .list _ => some '['
  | .object _ => some '{'
  | _ => none

theorem isBare_of_isDigit {c : Char} (digit : c.isDigit = true) : isBare c = true := by
  simp [isBare, Char.isAlphanum, digit]

theorem spelling_isClear : spelling.IsClear where
  infinity := ⟨'I', rfl, rfl, by decide⟩
  notANumber := ⟨'N', rfl, rfl, by decide⟩
  apart := by decide

theorem integerText_eq (n : Int) :
    Numeral.text n =
      if n < 0 then '-' :: Nat.toDigits 10 n.natAbs else Nat.toDigits 10 n.natAbs := by
  cases n with
  | ofNat n => simp [Numeral.text, toString, Int.repr]
  | negSucc n => simp [Numeral.text, toString, Int.repr, Int.negSucc_lt_zero]

/-- Integers are written with digits and a sign. -/
theorem isDigit_of_mem_text {n : Int} {c : Char} (member : c ∈ Numeral.text n) :
    c.isDigit = true ∨ c = '-' := by
  rw [integerText_eq] at member
  split at member
  · rcases List.mem_cons.mp member with rfl | digit
    · exact Or.inr rfl
    · exact Or.inl (Binary64.isDecimal_toDigits _ c digit)
  · exact Or.inl (Binary64.isDecimal_toDigits _ c member)

theorem isBare_of_mem_valueText {v : Value} (word : lead? v = none) (indent : Indent)
    (depth : Nat) : ∀ c ∈ valueText indent depth v, isBare c = true := by
  cases v with
  | null =>
    rw [valueText]
    exact List.all_eq_true.mp rfl
  | bool b =>
    cases b with
    | false | true =>
      rw [valueText]
      exact List.all_eq_true.mp rfl
  | int n =>
    intro c member
    rw [valueText] at member
    rcases isDigit_of_mem_text member with digit | rfl
    · exact isBare_of_isDigit digit
    · rfl
  | float x =>
    rw [valueText]
    exact Binary64.forall_mem_text (fun c => isBare_of_isDigit) (List.all_eq_true.mp rfl)
      (List.all_eq_true.mp rfl) x
  | _ => contradiction

theorem enclosed_none (depth : Nat) (start stop : Char) (parts : List (List Char)) :
    enclosed none depth start stop parts =
      start :: (List.intercalate [',', ' '] parts ++ [stop]) := by
  unfold enclosed
  cases parts with
  | nil => rfl
  | cons first others => simp [lineBreak, separator]

theorem itemTexts_eq_map (indent : Indent) (depth : Nat) (items : List Value) :
    itemTexts indent depth items = items.map (valueText indent depth) := by
  induction items with
  | nil => rfl
  | cons item rest ih => rw [itemTexts, ih, List.map_cons]

def fieldText (indent : Indent) (depth : Nat) (field : String × Value) : List Char :=
  stringText field.1 ++ ':' :: ' ' :: valueText indent depth field.2

theorem fieldTexts_eq_map (indent : Indent) (depth : Nat) (fields : Entries Value) :
    fieldTexts indent depth fields = fields.map (fieldText indent depth) := by
  induction fields with
  | nil => rfl
  | cons field rest ih => rw [fieldTexts, ih, List.map_cons, fieldText]

theorem valueText_list (depth : Nat) (items : List Value) :
    valueText none depth (.list items) =
      enclosed none depth '[' ']' (items.map (valueText none (depth + 1))) := by
  rw [valueText, itemTexts_eq_map]

theorem valueText_object (depth : Nat) (fields : Entries Value) :
    valueText none depth (.object fields) =
      enclosed none depth '{' '}' (fields.map (fieldText none (depth + 1))) := by
  rw [valueText, fieldTexts_eq_map]

theorem valueText_ne_nil (v : Value) (depth : Nat) : valueText none depth v ≠ [] := by
  cases v with
  | null => rw [valueText]; decide
  | bool b =>
    cases b with
    | false | true => rw [valueText]; decide
  | int n =>
    rw [valueText, integerText_eq]
    split
    · exact List.cons_ne_nil _ _
    · exact Nat.toDigits_ne_nil
  | float x =>
    obtain ⟨c, member, -⟩ := spelling_isClear.exists_mem_text x
    rw [valueText]
    exact List.ne_nil_of_mem member
  | str s =>
    rw [valueText]
    exact List.cons_ne_nil _ _
  | list items =>
    rw [valueText_list, enclosed_none]
    exact List.cons_ne_nil _ _
  | object fields =>
    rw [valueText_object, enclosed_none]
    exact List.cons_ne_nil _ _

/-- The character that a text begins with tells words from strings, lists and objects. -/
theorem head?_valueText (v : Value) (depth : Nat) (rest : List Char) :
    ((valueText none depth v ++ rest).head?.filter fun c => !isBare c) = lead? v := by
  cases led : lead? v with
  | none =>
    obtain ⟨c, more, text⟩ := List.exists_cons_of_ne_nil (valueText_ne_nil v depth)
    have bare := isBare_of_mem_valueText led none depth c (text ▸ List.mem_cons_self)
    rw [text, List.cons_append, List.head?_cons, Option.filter_some, bare]
    rfl
  | some c =>
    cases v with
    | str s =>
      obtain rfl := Option.some.inj led
      rw [valueText]
      rfl
    | list items =>
      obtain rfl := Option.some.inj led
      rw [valueText_list, enclosed_none]
      rfl
    | object fields =>
      obtain rfl := Option.some.inj led
      rw [valueText_object, enclosed_none]
      rfl
    | _ => contradiction

theorem lead?_eq_of_append {v w : Value} {depth depth' : Nat} {rest rest' : List Char}
    (same : valueText none depth v ++ rest = valueText none depth' w ++ rest') :
    lead? v = lead? w := by
  rw [← head?_valueText v depth rest, same, head?_valueText]

theorem eq_str_of_lead? {v : Value} (led : lead? v = some '"') : ∃ s, v = .str s := by
  cases v with
  | str s => exact ⟨s, rfl⟩
  | _ => simp [lead?] at led

theorem eq_list_of_lead? {v : Value} (led : lead? v = some '[') : ∃ items, v = .list items := by
  cases v with
  | list items => exact ⟨items, rfl⟩
  | _ => simp [lead?] at led

theorem eq_object_of_lead? {v : Value} (led : lead? v = some '{') :
    ∃ fields, v = .object fields := by
  cases v with
  | object fields => exact ⟨fields, rfl⟩
  | _ => simp [lead?] at led

/-- Whichever closed text comes behind it, the text ends where it does. -/
def Splits (text text' : List Char) : Prop :=
  ∀ rest rest', IsClosed rest → IsClosed rest' → text ++ rest = text' ++ rest' →
    text = text' ∧ rest = rest'

/-- What stands behind the first of some parts. -/
def behind (stop : Char) (rest : List Char) : List (List Char) → List Char
  | [] => stop :: rest
  | parts => ',' :: ' ' :: (List.intercalate [',', ' '] parts ++ stop :: rest)

theorem intercalate_cons_append (stop : Char) (rest part : List Char) (parts : List (List Char)) :
    List.intercalate [',', ' '] (part :: parts) ++ stop :: rest =
      part ++ behind stop rest parts := by
  cases parts with
  | nil => rw [List.intercalate_singleton, behind]
  | cons next others =>
    rw [List.intercalate_cons_cons, List.append_assoc, List.append_assoc]
    rfl

theorem ne_of_head? {stop : Char} {part more rest : List Char}
    (opens : part.head? ≠ none ∧ part.head? ≠ some stop) : part ++ more ≠ stop :: rest := by
  intro same
  cases part with
  | nil => exact opens.1 rfl
  | cons c part =>
    obtain ⟨rfl, -⟩ := List.cons.inj same
    exact opens.2 rfl

section

variable {stop : Char} (mark : isBare stop = false) (noComma : stop ≠ ',')

include mark in
theorem isClosed_behind (rest : List Char) (parts : List (List Char)) :
    IsClosed (behind stop rest parts) := by
  cases parts with
  | nil => exact isClosed_cons mark rest
  | cons next others => exact isClosed_cons rfl _

include mark noComma in
/-- Parts with commas between them, up to what closes them. -/
private theorem parts_of_intercalate {parts parts' : List (List Char)}
    (opens : ∀ part ∈ parts, part.head? ≠ none ∧ part.head? ≠ some stop)
    (opens' : ∀ part ∈ parts', part.head? ≠ none ∧ part.head? ≠ some stop)
    (splits : ∀ part ∈ parts, ∀ part' ∈ parts', Splits part part') {rest rest' : List Char}
    (same : List.intercalate [',', ' '] parts ++ stop :: rest =
      List.intercalate [',', ' '] parts' ++ stop :: rest') : parts = parts' ∧ rest = rest' := by
  induction parts generalizing parts' with
  | nil =>
    cases parts' with
    | nil => exact ⟨rfl, (List.cons.inj same).2⟩
    | cons part' others' =>
      rw [intercalate_cons_append] at same
      exact absurd same.symm (ne_of_head? (opens' part' List.mem_cons_self))
  | cons part others ih =>
    cases parts' with
    | nil =>
      rw [intercalate_cons_append] at same
      exact absurd same (ne_of_head? (opens part List.mem_cons_self))
    | cons part' others' =>
      rw [intercalate_cons_append, intercalate_cons_append] at same
      obtain ⟨rfl, behind_same⟩ := splits part List.mem_cons_self part' List.mem_cons_self _ _
        (isClosed_behind mark rest others) (isClosed_behind mark rest' others') same
      obtain ⟨-, opens⟩ := List.forall_mem_cons.mp opens
      obtain ⟨-, opens'⟩ := List.forall_mem_cons.mp opens'
      have later : ∀ part ∈ others, ∀ part' ∈ others', Splits part part' :=
        fun part member part' member' => splits part (List.mem_cons_of_mem _ member) part'
          (List.mem_cons_of_mem _ member')
      -- The character behind the first part tells whether there are more.
      cases others with
      | nil =>
        cases others' with
        | nil => exact ⟨rfl, (List.cons.inj behind_same).2⟩
        | cons next' more' => exact absurd (List.cons.inj behind_same).1 noComma
      | cons next more =>
        cases others' with
        | nil => exact absurd (List.cons.inj behind_same).1.symm noComma
        | cons next' more' =>
          obtain ⟨same_others, same_rest⟩ := ih opens opens' later
            (List.cons.inj (List.cons.inj behind_same).2).2
          exact ⟨congrArg (part :: ·) same_others, same_rest⟩

include mark noComma in
theorem parts_of_enclosed {start : Char} {depth depth' : Nat} {parts parts' : List (List Char)}
    (opens : ∀ part ∈ parts, part.head? ≠ none ∧ part.head? ≠ some stop)
    (opens' : ∀ part ∈ parts', part.head? ≠ none ∧ part.head? ≠ some stop)
    (splits : ∀ part ∈ parts, ∀ part' ∈ parts', Splits part part') {rest rest' : List Char}
    (same : enclosed none depth start stop parts ++ rest =
      enclosed none depth' start stop parts' ++ rest') : parts = parts' ∧ rest = rest' := by
  simp only [enclosed_none, List.cons_append, List.append_assoc, List.nil_append] at same
  exact parts_of_intercalate mark noComma opens opens' splits (List.cons.inj same).2

end

private theorem lead?_ne {v : Value} {stop : Char} (unquoted : stop ≠ '"') (unopened : stop ≠ '[')
    (unopened' : stop ≠ '{') : lead? v ≠ some stop := by
  cases v with
  | str s => exact fun led => unquoted (Option.some.inj led).symm
  | list items => exact fun led => unopened (Option.some.inj led).symm
  | object fields => exact fun led => unopened' (Option.some.inj led).symm
  | _ => simp [lead?]

theorem head?_itemText {v : Value} {depth : Nat} :
    (valueText none depth v).head? ≠ none ∧ (valueText none depth v).head? ≠ some ']' := by
  refine ⟨fun nothing => valueText_ne_nil v depth (List.head?_eq_none_iff.mp nothing), ?_⟩
  intro starts
  have led := head?_valueText v depth []
  rw [List.append_nil, starts] at led
  exact lead?_ne (by decide) (by decide) (by decide) led.symm

theorem head?_fieldText {field : String × Value} {depth : Nat} :
    (fieldText none depth field).head? ≠ none ∧ (fieldText none depth field).head? ≠ some '}' := by
  have starts : (fieldText none depth field).head? = some '"' := rfl
  rw [starts]
  decide

theorem itemTexts_of_append {items items' : List Value} {depth depth' : Nat}
    (splits : ∀ item ∈ items, ∀ item' ∈ items',
      Splits (valueText none (depth + 1) item) (valueText none (depth' + 1) item'))
    {rest rest' : List Char}
    (same : valueText none depth (.list items) ++ rest =
      valueText none depth' (.list items') ++ rest') :
    items.map (valueText none (depth + 1)) = items'.map (valueText none (depth' + 1)) ∧
      rest = rest' := by
  rw [valueText_list, valueText_list] at same
  refine parts_of_enclosed rfl (by decide) ?_ ?_ ?_ same
  · exact List.forall_mem_map.mpr fun item _ => head?_itemText
  · exact List.forall_mem_map.mpr fun item _ => head?_itemText
  · exact List.forall_mem_map.mpr fun item member =>
      List.forall_mem_map.mpr fun item' member' => splits item member item' member'

private theorem splits_fieldText {field field' : String × Value} {depth depth' : Nat}
    (splits : Splits (valueText none depth field.2) (valueText none depth' field'.2)) :
    Splits (fieldText none depth field) (fieldText none depth' field') := by
  intro rest rest' closed closed' same
  unfold fieldText at same ⊢
  rw [List.append_assoc, List.append_assoc] at same
  obtain ⟨keys, behind_keys⟩ := stringText_append_inj same
  obtain ⟨texts, rests⟩ := splits rest rest' closed closed'
    (List.cons.inj (List.cons.inj behind_keys).2).2
  rw [keys, texts]
  exact ⟨rfl, rests⟩

theorem fieldTexts_of_append {fields fields' : Entries Value} {depth depth' : Nat}
    (splits : ∀ field ∈ fields, ∀ field' ∈ fields',
      Splits (valueText none (depth + 1) field.2) (valueText none (depth' + 1) field'.2))
    {rest rest' : List Char}
    (same : valueText none depth (.object fields) ++ rest =
      valueText none depth' (.object fields') ++ rest') :
    fields.map (fieldText none (depth + 1)) = fields'.map (fieldText none (depth' + 1)) ∧
      rest = rest' := by
  rw [valueText_object, valueText_object] at same
  refine parts_of_enclosed rfl (by decide) ?_ ?_ ?_ same
  · exact List.forall_mem_map.mpr fun field _ => head?_fieldText
  · exact List.forall_mem_map.mpr fun field _ => head?_fieldText
  · exact List.forall_mem_map.mpr fun field member =>
      List.forall_mem_map.mpr fun field' member' =>
        splits_fieldText (splits field member field' member')

/-- No text of a value begins the text of another. -/
theorem splits_valueText (v w : Value) (depth depth' : Nat) :
    Splits (valueText none depth v) (valueText none depth' w) := by
  induction v using Value.induction generalizing w depth depth' with
  | str s =>
    intro rest rest' closed closed' same
    obtain ⟨t, rfl⟩ := eq_str_of_lead? (lead?_eq_of_append same).symm
    rw [valueText, valueText] at same ⊢
    obtain ⟨rfl, rests⟩ := stringText_append_inj same
    exact ⟨rfl, rests⟩
  | list items ih =>
    intro rest rest' closed closed' same
    obtain ⟨items', rfl⟩ := eq_list_of_lead? (lead?_eq_of_append same).symm
    obtain ⟨texts, rests⟩ :=
      itemTexts_of_append (fun item member item' _ => ih item member item' _ _) same
    rw [valueText_list, valueText_list, texts, enclosed_none, enclosed_none]
    exact ⟨rfl, rests⟩
  | object fields ih =>
    intro rest rest' closed closed' same
    obtain ⟨fields', rfl⟩ := eq_object_of_lead? (lead?_eq_of_append same).symm
    obtain ⟨texts, rests⟩ :=
      fieldTexts_of_append (fun field member field' _ => ih field member field'.2 _ _) same
    rw [valueText_object, valueText_object, texts, enclosed_none, enclosed_none]
    exact ⟨rfl, rests⟩
  | _ =>
    intro rest rest' closed closed' same
    have led := lead?_eq_of_append same
    exact append_inj_of_bare (isBare_of_mem_valueText rfl none depth)
      (isBare_of_mem_valueText led.symm none depth') closed closed' same

section

variable {depth depth' : Nat}

theorem itemTexts_eq {items items' : List Value}
    (same : valueText none depth (.list items) = valueText none depth' (.list items')) :
    items.map (valueText none (depth + 1)) = items'.map (valueText none (depth' + 1)) :=
  (itemTexts_of_append (fun _ _ _ _ => splits_valueText _ _ _ _)
    (congrArg (· ++ []) same)).1

theorem fieldTexts_eq {fields fields' : Entries Value}
    (same : valueText none depth (.object fields) = valueText none depth' (.object fields')) :
    fields.map (fieldText none (depth + 1)) = fields'.map (fieldText none (depth' + 1)) :=
  (fieldTexts_of_append (fun _ _ _ _ => splits_valueText _ _ _ _)
    (congrArg (· ++ []) same)).1

theorem field_of_fieldText {field field' : String × Value}
    (same : fieldText none depth field = fieldText none depth' field') :
    field.1 = field'.1 ∧ valueText none depth field.2 = valueText none depth' field'.2 := by
  obtain ⟨keys, behind_keys⟩ := stringText_append_inj same
  exact ⟨keys, (List.cons.inj (List.cons.inj behind_keys).2).2⟩

end

end Json

end DesignTokens
