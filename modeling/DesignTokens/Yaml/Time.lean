import DesignTokens.Calendar
import DesignTokens.Datum
import DesignTokens.Yaml.Failure
import DesignTokens.Yaml.Kind

/-! The days and moments that scalars stand for. -/
namespace DesignTokens.Yaml

open Text

def leadingNumber (s : List Char) : Nat × List Char :=
  (digitsValue (s.takeWhile isDigit), s.dropWhile isDigit)

/-- The first six digits of a fraction, with zeros for those that are missing. -/
def microseconds (digits : List Char) : Nat :=
  digitsValue ((digits ++ List.replicate 6 '0').take 6)

/-- How far a clock is ahead, if the text says so. -/
def offset? (s : List Char) : Option Int :=
  match s.dropWhile fun c => c = ' ' ∨ c = '\t' with
  | 'Z' :: _ => some 0
  | sign :: rest =>
    if sign = '-' ∨ sign = '+' then
      let (hours, rest) := leadingNumber rest
      let (minutes, _) := leadingNumber (rest.drop 1)
      let seconds : Int := ((hours * 60 + minutes) * 60 : Nat)
      some (if sign = '-' then -seconds else seconds)
    else none
  | [] => none

def momentOn (date : Date) (clock : List Char) : Moment :=
  let (hour, rest) := leadingNumber (clock.dropWhile (!isDigit ·))
  let (minute, rest) := leadingNumber (rest.drop 1)
  let (second, rest) := leadingNumber (rest.drop 1)
  let fraction := if rest.head? = some '.' then (rest.drop 1).takeWhile isDigit else []
  let rest := if rest.head? = some '.' then (rest.drop 1).dropWhile isDigit else rest
  ⟨date, hour, minute, second, microseconds fraction, offset? rest⟩

/-- A day or a moment, each of whose parts exists. -/
def timestamp (text : List Char) : Except Failure Datum :=
  if !Kind.dayOrMoment.describes text then .error .notTimestamp
  else
    let (year, rest) := leadingNumber text
    let (month, rest) := leadingNumber (rest.drop 1)
    let (day, rest) := leadingNumber (rest.drop 1)
    let date : Date := ⟨year, month, day⟩
    if rest = [] ∨ rest = ['\n'] then
      if date.isValid then .ok (.date date) else .error .noSuchTime
    else
      let moment := momentOn date rest
      if moment.isValid then .ok (.moment moment) else .error .noSuchTime

end DesignTokens.Yaml
