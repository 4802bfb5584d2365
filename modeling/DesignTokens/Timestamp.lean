/-! Moments in universal time, to the microsecond. -/
namespace DesignTokens

structure Timestamp where
  year : Nat
  month : Nat
  day : Nat
  hour : Nat
  minute : Nat
  second : Nat
  microsecond : Nat := 0
deriving DecidableEq

namespace Timestamp

/-- A number with at least so many digits. -/
def padded (width n : Nat) : String :=
  String.ofList (List.replicate (width - (toString n).length) '0') ++ toString n

def dayText (year month day : Nat) : String :=
  s!"{padded 4 year}-{padded 2 month}-{padded 2 day}"

/-- The fraction of a second is written only where there is one. -/
def clockText (hour minute second microsecond : Nat) : String :=
  let fraction := if microsecond = 0 then "" else s!".{padded 6 microsecond}"
  s!"{padded 2 hour}:{padded 2 minute}:{padded 2 second}{fraction}"

def isoText (t : Timestamp) : String :=
  let day := dayText t.year t.month t.day
  let time := clockText t.hour t.minute t.second t.microsecond
  s!"{day}T{time}+00:00"

/-- To the minute, as people read it. -/
def minuteText (t : Timestamp) : String :=
  let day := s!"{t.year}-{padded 2 t.month}-{padded 2 t.day}"
  s!"{day} {padded 2 t.hour}:{padded 2 t.minute} UTC"

end Timestamp

end DesignTokens
