import DesignTokens.Text.Digit
import DesignTokens.Text.Surrogate
import DesignTokens.Value

/-! The lexemes of JSON text, each with the line it starts on. Text that begins
no lexeme ends the list with the fault found in it. -/
namespace DesignTokens.Json

open Text

inductive Fault where
  | expectedValue
  | expectedName
  | expectedColon
  | expectedComma
  | extraData
  | unterminatedString
  | controlCharacter
  | badEscape
  | badUnicodeEscape
  | byteOrderMark
  | longInteger
deriving DecidableEq

def Fault.message : Fault → String
  | expectedValue => "Expecting value"
  | expectedName => "Expecting property name enclosed in double quotes"
  | expectedColon => "Expecting ':' delimiter"
  | expectedComma => "Expecting ',' delimiter"
  | extraData => "Extra data"
  | unterminatedString => "Unterminated string starting at"
  | controlCharacter => "Invalid control character at"
  | badEscape => "Invalid \\escape"
  | badUnicodeEscape => "Invalid \\uXXXX escape"
  | byteOrderMark => "Unexpected UTF-8 BOM (decode using utf-8-sig)"
  | longInteger => "Integer with too many digits"

inductive Token where
  | beginList
  | endList
  | beginObject
  | endObject
  | comma
  | colon
  | string (s : String)
  | scalar (v : Value)
  | brokenString (fault : Fault)
  | unknown

structure Lexeme where
  token : Token
  line : Nat

def codeUnit? (a b c d : Char) : Option Nat := do
  return (((← hexValue? a) * 16 + (← hexValue? b)) * 16 + (← hexValue? c)) * 16 + (← hexValue? d)

/-- The characters for an escaped code unit after an unpaired high surrogate or
after none, and the high surrogate that is unpaired then. A half that stays alone
leaves the replacement character. -/
def joined (high : Option Nat) (unit : Nat) : List Char × Option Nat :=
  match high with
  | some h =>
    if isLowSurrogate unit then
      ([Char.ofNat (0x10000 + (h - 0xd800) * 0x400 + (unit - 0xdc00))], none)
    else if isHighSurrogate unit then ([replacement], some unit)
    else ([replacement, Char.ofNat unit], none)
  | none =>
    if isHighSurrogate unit then ([], some unit)
    else if isLowSurrogate unit then ([replacement], none)
    else ([Char.ofNat unit], none)

def unpaired (high : Option Nat) : List Char := if high.isSome then [replacement] else []

def simpleEscape? : Char → Option Char
  | '"' => some '"'
  | '\\' => some '\\'
  | '/' => some '/'
  | 'b' => some '\x08'
  | 'f' => some '\x0c'
  | 'n' => some '\n'
  | 'r' => some '\r'
  | 't' => some '\t'
  | _ => none

abbrev Scanned := Except Fault (List Char × List Char)

def Scanned.after (front : List Char) (scanned : Scanned) : Scanned :=
  scanned.map fun result => (front ++ result.1, result.2)

/-- The characters up to the closing quote, and the text behind it. -/
def scanString (high : Option Nat) : List Char → Scanned
  | [] => .error .unterminatedString
  | c :: rest =>
    if c = '"' then .ok (unpaired high, rest)
    else if c = '\\' then
      match rest with
      | [] => .error .unterminatedString
      | kind :: more =>
        if kind = 'u' then
          match more with
          | a :: b :: c :: d :: next :: tail =>
            match codeUnit? a b c d with
            | none => .error .badUnicodeEscape
            | some unit =>
              (scanString (joined high unit).2 (next :: tail)).after (joined high unit).1
          | _ => .error .badUnicodeEscape
        else
          match simpleEscape? kind with
          | none => .error .badEscape
          | some c => (scanString none more).after (unpaired high ++ [c])
    else if c.toNat < 0x20 then .error .controlCharacter
    else (scanString none rest).after (unpaired high ++ [c])

theorem Scanned.of_after {front t rest : List Char} {scanned : Scanned}
    (h : scanned.after front = .ok (t, rest)) : ∃ back, scanned = .ok (back, rest) := by
  cases scanned with
  | error f => simp [after, Except.map] at h
  | ok result =>
    simp only [after, Except.map, Except.ok.injEq, Prod.mk.injEq] at h
    exact ⟨result.1, by rw [← h.2]⟩

theorem scanString_shorter {high : Option Nat} {s t rest : List Char}
    (h : scanString high s = .ok (t, rest)) : rest.length < s.length := by
  fun_induction scanString high s generalizing t rest
  case case2 =>
    simp only [Except.ok.injEq, Prod.mk.injEq] at h
    simp [h.2]
  case case5 ih =>
    obtain ⟨_, found⟩ := Scanned.of_after h
    have := ih found
    simp only [List.length_cons] at this ⊢
    omega
  case case8 ih =>
    obtain ⟨_, found⟩ := Scanned.of_after h
    have := ih found
    simp only [List.length_cons]
    omega
  case case10 ih =>
    obtain ⟨_, found⟩ := Scanned.of_after h
    have := ih found
    simp only [List.length_cons]
    omega
  all_goals simp at h

def scanSign : List Char → Bool × List Char
  | '-' :: rest => (true, rest)
  | s => (false, s)

/-- A number does not go on after a leading zero. -/
def scanWhole : List Char → Option (List Char × List Char)
  | [] => none
  | c :: rest =>
    if c = '0' then some ([c], rest)
    else if isDigit c then some (c :: rest.takeWhile isDigit, rest.dropWhile isDigit)
    else none

/-- A point counts only with a digit behind it. -/
def scanFraction (s : List Char) : Option (List Char) × List Char :=
  match s with
  | '.' :: c :: rest =>
    if isDigit c then (some (c :: rest.takeWhile isDigit), rest.dropWhile isDigit) else (none, s)
  | _ => (none, s)

def scanExponentSign : List Char → Bool × List Char
  | '-' :: rest => (true, rest)
  | '+' :: rest => (false, rest)
  | s => (false, s)

def scanExponent (s : List Char) : Option Int × List Char :=
  match s with
  | e :: rest =>
    let (negative, digits) := scanExponentSign rest
    if (e = 'e' ∨ e = 'E') ∧ (digits.head?.any isDigit) then
      let n : Int := digitsValue (digits.takeWhile isDigit)
      (some (if negative then -n else n), digits.dropWhile isDigit)
    else (none, s)
  | [] => (none, s)

def scanNumber (s : List Char) : Option (Value × List Char) := do
  let (negative, s) := scanSign s
  let (whole, s) ← scanWhole s
  let (fraction, s) := scanFraction s
  let (exponent, s) := scanExponent s
  if fraction.isNone ∧ exponent.isNone then
    let n : Int := digitsValue whole
    return (.int (if negative then -n else n), s)
  let places := fraction.getD []
  return (.float (Binary64.ofDecimal negative (digitsValue (whole ++ places))
    (exponent.getD 0 - places.length)), s)

theorem length_dropWhile_le (p : Char → Bool) (s : List Char) :
    (s.dropWhile p).length ≤ s.length := (List.dropWhile_suffix p).length_le

private theorem scanSign_le (s : List Char) : (scanSign s).2.length ≤ s.length := by
  unfold scanSign
  split <;> simp

private theorem scanWhole_shorter {s whole rest : List Char}
    (h : scanWhole s = some (whole, rest)) :
    rest.length < s.length := by
  unfold scanWhole at h
  split at h
  · simp at h
  · next c tail =>
    have := length_dropWhile_le isDigit tail
    split at h
    · simp at h; simp [h.2]
    · split at h
      · simp at h; simp [← h.2]; omega
      · simp at h

private theorem scanFraction_le (s : List Char) : (scanFraction s).2.length ≤ s.length := by
  unfold scanFraction
  split
  · next c tail =>
    have := length_dropWhile_le isDigit tail
    split
    · simp only [List.length_cons]
      omega
    · exact Nat.le_refl _
  · exact Nat.le_refl _

private theorem scanExponentSign_le (s : List Char) : (scanExponentSign s).2.length ≤ s.length := by
  unfold scanExponentSign
  split <;> simp

private theorem scanExponent_le (s : List Char) : (scanExponent s).2.length ≤ s.length := by
  unfold scanExponent
  split
  · next e tail =>
    have h1 := scanExponentSign_le tail
    have h2 := length_dropWhile_le isDigit (scanExponentSign tail).2
    dsimp only
    split
    · simp only [List.length_cons]
      omega
    · exact Nat.le_refl _
  · exact Nat.le_refl _

theorem scanNumber_shorter {s rest : List Char} {v : Value} (h : scanNumber s = some (v, rest)) :
    rest.length < s.length := by
  simp only [scanNumber, Option.bind_eq_bind] at h
  obtain ⟨⟨whole, s'⟩, hw, h⟩ := Option.bind_eq_some_iff.mp h
  have h1 := scanSign_le s
  have h2 := scanWhole_shorter hw
  have h3 := scanFraction_le s'
  have h4 := scanExponent_le (scanFraction s').2
  dsimp only at h
  split at h
  all_goals
    simp only [pure, Option.some.injEq, Prod.mk.injEq] at h
    rw [← h.2]
    omega

def words : List (List Char × Value) := [
  ("null".toList, .null), ("true".toList, .bool true), ("false".toList, .bool false),
  ("NaN".toList, .float .notANumber), ("Infinity".toList, .float (.infinity false)),
  ("-Infinity".toList, .float (.infinity true))]

def afterWord? (word s : List Char) : Option (List Char) :=
  match word, s with
  | [], s => some s
  | c :: word, d :: s => if c = d then afterWord? word s else none
  | _ :: _, [] => none

def scanWord (s : List Char) : Option (Value × List Char) :=
  words.findSome? fun word => (afterWord? word.1 s).map fun rest => (word.2, rest)

private theorem afterWord?_length {word s rest : List Char} (h : afterWord? word s = some rest) :
    rest.length + word.length = s.length := by
  fun_induction afterWord? word s with
  | case1 => simp at h; simp [h]
  | case2 c word s ih => have := ih h; simp; omega
  | case3 => simp at h
  | case4 => simp at h

theorem scanWord_shorter {s rest : List Char} {v : Value} (h : scanWord s = some (v, rest)) :
    rest.length < s.length := by
  obtain ⟨word, member, found⟩ := List.exists_of_findSome?_eq_some h
  obtain ⟨rest', hr, same⟩ := Option.map_eq_some_iff.mp found
  have := afterWord?_length hr
  have positive : 0 < word.1.length := by
    simp only [words, List.mem_cons, List.not_mem_nil, or_false] at member
    rcases member with rfl | rfl | rfl | rfl | rfl | rfl <;> decide
  simp only [Prod.mk.injEq] at same
  rw [← same.2]
  omega

def punctuation? : Char → Option Token
  | '[' => some .beginList
  | ']' => some .endList
  | '{' => some .beginObject
  | '}' => some .endObject
  | ',' => some .comma
  | ':' => some .colon
  | _ => none

def isSpace (c : Char) : Bool := c = ' ' ∨ c = '\t' ∨ c = '\r' ∨ c = '\n'

/-- The lexemes of a text that starts on the given line, and its last line. -/
def lexemes (line : Nat) (s : List Char) : List Lexeme × Nat :=
  match s with
  | [] => ([], line)
  | c :: rest =>
    if isSpace c then lexemes (if c = '\n' then line + 1 else line) rest
    else
      let followedBy (token : Token) (more : List Lexeme × Nat) :=
        (⟨token, line⟩ :: more.1, more.2)
      match punctuation? c with
      | some token => followedBy token (lexemes line rest)
      | none =>
        if c = '"' then
          match h : scanString none rest with
          | .ok (t, more) =>
            have := scanString_shorter h
            followedBy (.string (String.ofList t)) (lexemes line more)
          | .error fault => ([⟨.brokenString fault, line⟩], line)
        else
          match h : scanWord (c :: rest) with
          | some (v, more) =>
            have := scanWord_shorter h
            followedBy (.scalar v) (lexemes line more)
          | none =>
            match h : scanNumber (c :: rest) with
            | some (v, more) =>
              have := scanNumber_shorter h
              followedBy (.scalar v) (lexemes line more)
            | none => ([⟨.unknown, line⟩], line)
termination_by s.length
decreasing_by all_goals simp only [List.length_cons] at *; omega

end DesignTokens.Json
