import DesignTokens.Csv
import Mathlib.Data.List.Basic
import Mathlib.Data.String.Basic

/-! Reading rows of fields back. A reader goes through a text one character at a time; main
statement: from what is printed it reads the very rows, whatever characters their fields hold. -/
namespace DesignTokens.Csv

/-- Where a reader stands, with the rows and the fields of the row that it has read. -/
inductive Reader where
  | atRow (rows : List (List String))
  | atField (rows : List (List String)) (row : List String)
  | inBare (rows : List (List String)) (row : List String) (text : List Char)
  | inQuoted (rows : List (List String)) (row : List String) (text : List Char)
  /-- After a quote in a quoted field, which ends the field or is the first of two. -/
  | atQuote (rows : List (List String)) (row : List String) (text : List Char)
  /-- Between the two characters that end a row. -/
  | inRowEnd (rows : List (List String)) (row : List String)
  | malformed

namespace Reader

section

variable (delimiter : Char) (rows : List (List String)) (row : List String)

/-- What may come behind a field. -/
def close (text : List Char) (c : Char) : Reader :=
  if c = delimiter then atField rows (row ++ [String.ofList text])
  else if c = '\r' then inRowEnd rows (row ++ [String.ofList text])
  else malformed

def goOn (text : List Char) (c : Char) : Reader :=
  if c = delimiter ∨ c = '"' ∨ c = '\r' ∨ c = '\n' then close delimiter rows row text c
  else inBare rows row (text ++ [c])

def start (c : Char) : Reader :=
  if c = '"' then inQuoted rows row [] else goOn delimiter rows row [] c

end

/-- A line without any character is a row without fields. -/
def step (delimiter : Char) : Reader → Char → Reader
  | atRow rows, c => if c = '\r' then inRowEnd rows [] else start delimiter rows [] c
  | atField rows row, c => start delimiter rows row c
  | inBare rows row text, c => goOn delimiter rows row text c
  | inQuoted rows row text, c =>
    if c = '"' then atQuote rows row text else inQuoted rows row (text ++ [c])
  | atQuote rows row text, c =>
    if c = '"' then inQuoted rows row (text ++ ['"']) else close delimiter rows row text c
  | inRowEnd rows row, c => if c = '\n' then atRow (rows ++ [row]) else malformed
  | malformed, _ => malformed

/-- The last row may do without its end. -/
def finish : Reader → Option (List (List String))
  | atRow rows => some rows
  | atField rows row => some (rows ++ [row ++ [""]])
  | inBare rows row text | atQuote rows row text => some (rows ++ [row ++ [String.ofList text]])
  | inQuoted .. | inRowEnd .. | malformed => none

end Reader

def read (delimiter : Char) (text : String) : Option (List (List String)) :=
  (text.toList.foldl (Reader.step delimiter) (.atRow [])).finish

structure IsDelimiter (c : Char) : Prop where
  ne_quote : c ≠ '"'
  ne_return : c ≠ '\r'
  ne_feed : c ≠ '\n'

section

open Reader

variable {delimiter : Char} (rows : List (List String)) (row : List String)

private theorem foldl_doubled (text before : List Char) :
    (doubled text).foldl (step delimiter) (inQuoted rows row before) =
      inQuoted rows row (before ++ text) := by
  induction text generalizing before with
  | nil => simp [doubled]
  | cons c rest ih => by_cases h : c = '"' <;> simp [doubled, h, step, ih]

theorem foldl_quoted (text : List Char) :
    (quoted text).foldl (step delimiter) (atField rows row) = atQuote rows row text := by
  have opened : step delimiter (atField rows row) '"' = inQuoted rows row [] := by
    simp [step, start]
  rw [quoted, List.cons_append, List.foldl_cons, opened, List.foldl_append, foldl_doubled]
  simp [step]

private theorem step_inBare {c : Char} (plain : needsQuotes delimiter c = false)
    (text : List Char) :
    step delimiter (inBare rows row text) c = inBare rows row (text ++ [c]) := by
  simp_all [step, goOn, needsQuotes]

private theorem step_atField {c : Char} (plain : needsQuotes delimiter c = false) :
    step delimiter (atField rows row) c = inBare rows row [c] := by
  simp_all [step, start, goOn, needsQuotes]

private theorem foldl_inBare {text : List Char}
    (plain : ∀ c ∈ text, needsQuotes delimiter c = false)
    (before : List Char) :
    text.foldl (step delimiter) (inBare rows row before) = inBare rows row (before ++ text) := by
  induction text generalizing before with
  | nil => simp
  | cons c rest ih =>
    obtain ⟨here, plain⟩ := List.forall_mem_cons.mp plain
    simp [step_inBare rows row here, ih plain]

/-- Behind the text of a field, quoted or not, a reader takes the field up. -/
theorem step_foldl_fieldText (delimits : IsDelimiter delimiter) (text : List Char) {c : Char}
    (ends : c = delimiter ∨ c = '\r') :
    step delimiter ((fieldText delimiter text).foldl (step delimiter) (atField rows row)) c =
      close delimiter rows row text c := by
  have noQuote : c ≠ '"' := by
    rcases ends with rfl | rfl
    · exact delimits.ne_quote
    · decide
  have closes (before : List Char) :
      goOn delimiter rows row before c = close delimiter rows row before c := by
    rcases ends with rfl | rfl <;> simp [goOn]
  unfold fieldText
  split
  · simp [foldl_quoted, step, noQuote]
  · next plain =>
    cases text with
    | nil => simp [step, start, noQuote, closes]
    | cons first rest =>
      simp only [Bool.not_eq_true, List.any_eq_false] at plain
      obtain ⟨here, others⟩ := List.forall_mem_cons.mp plain
      rw [List.foldl_cons, step_atField rows row here, foldl_inBare rows row others]
      exact closes _

theorem foldl_fields (delimits : IsDelimiter delimiter) {fields : List (List Char)}
    (nonempty : fields ≠ []) :
    (List.intercalate [delimiter] (fields.map (fieldText delimiter)) ++ rowEnd).foldl
      (step delimiter) (atField rows row) = atRow (rows ++ [row ++ fields.map String.ofList]) := by
  induction fields generalizing row with
  | nil => contradiction
  | cons text rest ih =>
    cases rest with
    | nil =>
      have ended : close delimiter rows row text '\r' =
          inRowEnd rows (row ++ [String.ofList text]) := by
        simp [close, delimits.ne_return.symm]
      rw [List.map_singleton, List.intercalate_singleton, List.foldl_append, rowEnd,
        List.foldl_cons, step_foldl_fieldText rows row delimits text (.inr rfl), ended]
      simp [step]
    | cons next rest =>
      have closed : close delimiter rows row text delimiter =
          atField rows (row ++ [String.ofList text]) := by simp [close]
      rw [List.map_cons, List.map_cons, List.intercalate_cons_cons, ← List.map_cons,
        List.append_assoc, List.append_assoc, List.foldl_append, List.singleton_append,
        List.foldl_cons, step_foldl_fieldText rows row delimits text (.inl rfl), closed,
        ih _ (List.cons_ne_nil next rest)]
      simp

/-- A row that does not end at once begins with a field. -/
theorem foldl_atRow {text : List Char} (nonempty : text ≠ []) (noEnd : text.head? ≠ some '\r') :
    text.foldl (step delimiter) (atRow rows) = text.foldl (step delimiter) (atField rows []) := by
  cases text with
  | nil => contradiction
  | cons c rest =>
    have different : c ≠ '\r' := by simpa using noEnd
    simp [step, different]

theorem head?_fieldText (text : List Char) : (fieldText delimiter text).head? ≠ some '\r' := by
  unfold fieldText
  split
  · simp [quoted]
  · next plain =>
    cases text with
    | nil => simp
    | cons c rest =>
      intro same
      simp_all [needsQuotes]

/-- Only a row without fields ends at once; a single empty field is quoted for that reason. -/
private theorem head?_fields (delimits : IsDelimiter delimiter) {fields : List (List Char)}
    (nonempty : fields ≠ []) (filled : fields ≠ [[]]) :
    (List.intercalate [delimiter] (fields.map (fieldText delimiter)) ++ rowEnd).head? ≠
      some '\r' := by
  cases fields with
  | nil => contradiction
  | cons text rest =>
    have first : (fieldText delimiter text).head? ≠ some '\r' := head?_fieldText text
    cases written : fieldText delimiter text with
    | cons c others =>
      rw [written] at first
      cases rest <;> simpa [written, List.intercalate_cons_cons] using first
    | nil =>
      have empty : text = [] := by
        unfold fieldText at written
        split at written
        · simp [quoted] at written
        · exact written
      cases rest with
      | nil => simp [empty] at filled
      | cons next rest => simp [written, List.intercalate_cons_cons, delimits.ne_return]

private theorem foldl_rowText (delimits : IsDelimiter delimiter) (fields : List (List Char)) :
    (rowText delimiter fields).foldl (step delimiter) (atRow rows) =
      atRow (rows ++ [fields.map String.ofList]) := by
  unfold rowText
  split
  · rw [foldl_atRow rows (by simp [quoted]) (by simp [quoted]), List.foldl_append, foldl_quoted]
    simp [step, close, delimits.ne_return.symm, rowEnd]
  · next filled =>
    by_cases none : fields = []
    · simp [none, step, rowEnd]
    · rw [foldl_atRow rows (by simp [rowEnd]) (head?_fields delimits none filled),
        foldl_fields rows [] delimits none, List.nil_append]

theorem foldl_print (delimits : IsDelimiter delimiter) (more : List (List String)) :
    (print delimiter more).toList.foldl (step delimiter) (atRow rows) = atRow (rows ++ more) := by
  rw [print, String.toList_ofList]
  induction more generalizing rows with
  | nil => simp
  | cons fields rest ih =>
    rw [List.flatMap_cons, List.foldl_append, foldl_rowText rows delimits, ih]
    simp [Function.comp_def]

end

/-- What is printed is read as the rows that it was printed from. -/
theorem read_print {delimiter : Char} (delimits : IsDelimiter delimiter)
    (rows : List (List String)) : read delimiter (print delimiter rows) = some rows := by
  rw [read, foldl_print [] delimits, List.nil_append, Reader.finish]

end DesignTokens.Csv
