import DesignTokens.Binary64.Shortest
import DesignTokens.Datum
import DesignTokens.Numeral
import DesignTokens.Text.Quoted

/-! Data as they are shown in messages. -/
namespace DesignTokens.Datum

mutual

/-- Whether every integer in the datum can be written. -/
def isWritable : Datum → Bool
  | int n => Numeral.isWritable n
  | pair first second => first.isWritable && second.isWritable
  | list items | set items => areWritable items
  | mapping entries => areWritableEntries entries
  | _ => true

def areWritable : List Datum → Bool
  | [] => true
  | item :: rest => item.isWritable && areWritable rest

def areWritableEntries : List (Datum × Datum) → Bool
  | [] => true
  | (key, item) :: rest => key.isWritable && item.isWritable && areWritableEntries rest

end

def call (name : String) (arguments : List (List Char)) : List Char :=
  name.toList ++ '(' :: List.intercalate [',', ' '] arguments ++ [')']

def naturalText (n : Nat) : List Char := (toString n).toList

def dateLiteral (d : Date) : List Char :=
  call "datetime.date" ([d.year, d.month, d.day].map naturalText)

/-- A time span as whole days and the seconds of a further day. -/
def spanLiteral (seconds : Int) : List Char :=
  let days := Int.fdiv seconds Moment.day
  let rest := Int.fmod seconds Moment.day
  let part (name : String) (n : Int) : List (List Char) :=
    if n = 0 then [] else [name.toList ++ '=' :: Numeral.text n]
  call "datetime.timedelta" (part "days" days ++ part "seconds" rest)

def offsetLiteral (offset : Int) : List Char :=
  if offset = 0 then "datetime.timezone.utc".toList
  else call "datetime.timezone" [spanLiteral offset]

/-- Seconds and microseconds are left out where nothing follows that is not zero. -/
def clockParts (m : Moment) : List Nat :=
  if m.microsecond ≠ 0 then [m.hour, m.minute, m.second, m.microsecond]
  else if m.second ≠ 0 then [m.hour, m.minute, m.second]
  else [m.hour, m.minute]

def momentLiteral (m : Moment) : List Char :=
  call "datetime.datetime"
    (([m.date.year, m.date.month, m.date.day] ++ clockParts m).map naturalText ++
      (m.offset.map fun offset => "tzinfo=".toList ++ offsetLiteral offset).toList)

def enclosed (start stop : Char) (parts : List (List Char)) : List Char :=
  start :: List.intercalate [',', ' '] parts ++ [stop]

def againLiteral (isMapping : Bool) : List Char :=
  if isMapping then "\x7b...\x7d".toList else "[...]".toList

mutual

def literal : Datum → List Char
  | null => "None".toList
  | bool true => "True".toList
  | bool false => "False".toList
  | int n => Numeral.text n
  | float x => x.text Binary64.plain
  | notANumber _ => Binary64.plain.notANumber.toList
  | str s => Text.quoted s.toList
  | bytes content => 'b' :: Text.quotedBytes content
  | date d => dateLiteral d
  | moment m => momentLiteral m
  | pair first second => enclosed '(' ')' [first.literal, second.literal]
  | list items => enclosed '[' ']' (literals items)
  | set [] => "set()".toList
  | set members => enclosed '\x7b' '\x7d' (literals members)
  | mapping entries => enclosed '\x7b' '\x7d' (entryLiterals entries)
  | again isMapping => againLiteral isMapping

def literals : List Datum → List (List Char)
  | [] => []
  | item :: rest => item.literal :: literals rest

def entryLiterals : List (Datum × Datum) → List (List Char)
  | [] => []
  | (key, item) :: rest => (key.literal ++ ':' :: ' ' :: item.literal) :: entryLiterals rest

end

/-- A datum put into a message: texts, days and moments go in as people write them. -/
def inMessage : Datum → List Char
  | str s => s.toList
  | date d => d.text.toList
  | moment m => m.text.toList
  | other => other.literal

end DesignTokens.Datum

namespace DesignTokens.Value

def literal (v : Value) : List Char := (Datum.ofValue v).literal

end DesignTokens.Value
