import DesignTokens.Text.Digit
import DesignTokens.Text.Pattern

/-! Kinds of nodes: what a tag names, or what the text of a scalar implies. Digits of
implied numbers may be grouped by underscores, and parts separated by colons are parts
of sixty. -/
namespace DesignTokens.Yaml

inductive Kind where
  | null
  | bool
  | int
  | float
  | str
  | binary
  | timestamp
  | list
  | mapping
  | set
  | orderedMapping
  | pairs
  /-- The key of entries that are to be merged in. -/
  | merge
  /-- The key of what stands for a mapping where a scalar is needed. -/
  | default
  | unknown
deriving DecidableEq

namespace Kind

def standardStart : String := "tag:yaml.org,2002:"

def standardNames : List (String × Kind) := [
  ("null", null), ("bool", bool), ("int", int), ("float", float), ("str", str),
  ("binary", binary), ("timestamp", timestamp), ("seq", list), ("map", mapping), ("set", set),
  ("omap", orderedMapping), ("pairs", pairs), ("merge", merge), ("value", default)]

def ofTag (tag : String) : Kind :=
  ((standardNames.find? fun name => standardStart ++ name.1 = tag).map Prod.snd).getD unknown

open Text Text.Pattern

def boolWords : List String := [
  "yes", "Yes", "YES", "no", "No", "NO", "true", "True", "TRUE", "false", "False", "FALSE",
  "on", "On", "ON", "off", "Off", "OFF"]

def nullWords : List String := ["~", "null", "Null", "NULL"]

/-- What no data have, but what would stand for marks of the language. -/
def markWords : List String := ["!", "&", "*"]

def words (list : List String) : Pattern := anyOf (list.map word)

def between (low high : Char) : Pattern := one fun c => low ≤ c ∧ c ≤ high

def digit : Pattern := one isDigit

def grouped (isMember : Char → Bool) : Pattern := many fun c => isMember c || c = '_'

def groupedDigits : Pattern := grouped isDigit

def sign : Pattern := optional (one fun c => c = '-' ∨ c = '+')

/-- At most one digit more than there has to be. -/
def oneOrTwo : Pattern := sequence [digit, optional digit]

def sixtieths : Pattern := repeated (sequence [char ':', optional (between '0' '5'), digit])

def exponent : Pattern :=
  optional (sequence [one fun c => c = 'e' ∨ c = 'E', one fun c => c = '-' ∨ c = '+',
    digit, many isDigit])

def isBinaryDigit (c : Char) : Bool := c = '0' ∨ c = '1' ∨ c = '_'

def isOctalDigit (c : Char) : Bool := ('0' ≤ c ∧ c ≤ '7') ∨ c = '_'

def isHexDigit (c : Char) : Bool := (hexValue? c).isSome ∨ c = '_'

def integer : Pattern := sequence [sign, anyOf [
  sequence [word "0b", one isBinaryDigit, many isBinaryDigit],
  sequence [char '0', one isOctalDigit, many isOctalDigit],
  char '0',
  sequence [between '1' '9', groupedDigits],
  sequence [between '1' '9', groupedDigits, sixtieths],
  sequence [word "0x", one isHexDigit, many isHexDigit]]]

/-- A decimal number has a point; without digits before it, it has no sign. -/
def decimal : Pattern := anyOf [
  sequence [sign, digit, groupedDigits, char '.', groupedDigits, exponent],
  sequence [char '.', digit, groupedDigits, exponent],
  sequence [sign, digit, groupedDigits, sixtieths, char '.', groupedDigits],
  sequence [sign, words [".inf", ".Inf", ".INF"]],
  words [".nan", ".NaN", ".NAN"]]

def twoDigits : Pattern := sequence [digit, digit]

def year : Pattern := sequence [twoDigits, twoDigits]

def blanks : Pattern := many fun c => c = ' ' ∨ c = '\t'

def offset : Pattern := sequence [blanks, anyOf [char 'Z', sequence [
  one fun c => c = '-' ∨ c = '+', oneOrTwo, optional (sequence [char ':', twoDigits])]]]

def clock : Pattern := sequence [
  anyOf [one fun c => c = 'T' ∨ c = 't', sequence [one fun c => c = ' ' ∨ c = '\t', blanks]],
  oneOrTwo, char ':', twoDigits, char ':', twoDigits,
  optional (sequence [char '.', many isDigit]), optional offset]

/-- A day by itself has two digits for the month and for the day. -/
def moment : Pattern := anyOf [
  sequence [year, char '-', twoDigits, char '-', twoDigits],
  sequence [year, char '-', oneOrTwo, char '-', oneOrTwo, clock]]

/-- A day, with or without a time. -/
def dayOrMoment : Pattern :=
  sequence [year, char '-', oneOrTwo, char '-', oneOrTwo, optional clock]

def patterns : List (Pattern × Kind) := [
  (words boolWords, bool), (decimal, float), (integer, int), (word "<<", merge),
  (words nullWords, null), (moment, timestamp), (word "=", default), (words markWords, unknown)]

/-- What a scalar without a tag stands for; nothing is written for no data. -/
def ofText (text : List Char) : Kind :=
  if text = [] then null
  else ((patterns.find? fun entry => entry.1.describes text).map Prod.snd).getD str

end Kind

end DesignTokens.Yaml
