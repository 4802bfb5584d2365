import DesignTokens.Timestamp

/-! Days of the calendar, and moments on a clock that may say how far it is ahead of
universal time. -/
namespace DesignTokens

structure Date where
  year : Nat
  month : Nat
  day : Nat
deriving DecidableEq

namespace Date

def isLeapYear (year : Nat) : Bool := year % 4 = 0 ∧ (year % 100 ≠ 0 ∨ year % 400 = 0)

def monthLength (year month : Nat) : Nat :=
  if month = 2 then (if isLeapYear year then 29 else 28)
  else if month = 4 ∨ month = 6 ∨ month = 9 ∨ month = 11 then 30
  else 31

/-- Years have up to four digits, and there is no year zero. -/
def isValid (d : Date) : Bool :=
  1 ≤ d.year ∧ d.year ≤ 9999 ∧ 1 ≤ d.month ∧ d.month ≤ 12 ∧
    1 ≤ d.day ∧ d.day ≤ monthLength d.year d.month

def daysBeforeMonth (year : Nat) : (month : Nat) → Nat
  | 0 | 1 => 0
  | month + 1 => daysBeforeMonth year month + monthLength year month

/-- Days since the last day before the first year. -/
def number (d : Date) : Nat :=
  let before := d.year - 1
  before * 365 + before / 4 - before / 100 + before / 400 +
    daysBeforeMonth d.year d.month + d.day

def text (d : Date) : String := Timestamp.dayText d.year d.month d.day

end Date

structure Moment where
  date : Date
  hour : Nat
  minute : Nat
  second : Nat
  microsecond : Nat
  /-- In seconds ahead of universal time, where the clock tells. -/
  offset : Option Int
deriving DecidableEq

namespace Moment

def day : Int := 24 * 60 * 60

/-- Offsets stay below one day. -/
def isValid (m : Moment) : Bool :=
  m.date.isValid && m.hour < 24 && m.minute < 60 && m.second < 60 && m.microsecond < 1000000 &&
    m.offset.all fun offset => -day < offset ∧ offset < day

/-- Microseconds of universal time for a clock with this offset. -/
def instant (m : Moment) (offset : Int) : Int :=
  let seconds := (m.date.number : Int) * day + m.hour * 3600 + m.minute * 60 + m.second - offset
  seconds * 1000000 + m.microsecond

/-- Clocks that tell their offsets are compared in universal time. -/
def agrees (m n : Moment) : Bool :=
  match m.offset, n.offset with
  | some a, some b => m.instant a = n.instant b
  | none, none => m = n
  | _, _ => false

def offsetText (offset : Int) : String :=
  let minutes := offset.natAbs / 60
  let sign := if offset < 0 then "-" else "+"
  s!"{sign}{Timestamp.padded 2 (minutes / 60)}:{Timestamp.padded 2 (minutes % 60)}"

def text (m : Moment) : String :=
  let time := Timestamp.clockText m.hour m.minute m.second m.microsecond
  let zone := (m.offset.map offsetText).getD ""
  s!"{m.date.text} {time}{zone}"

end Moment

end DesignTokens
