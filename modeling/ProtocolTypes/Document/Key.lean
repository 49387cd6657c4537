import ProtocolTypes.Document.Value
import ProtocolTypes.Number.Binary64

/-!
# Keys

When two document values count as one key.  Numbers are compared by their value, also
across kinds, and a truth value counts as zero or one; moments with an offset are
compared as points in time.
-/

namespace ProtocolTypes

namespace Day

/-- The days before the first of March of a year, on the calendar carried back to the
year zero. -/
def daysBeforeYear (year : Nat) : Nat :=
  365 * year + year / 4 - year / 100 + year / 400

/-- The number of the day, counted from a fixed one. -/
def number (day : Day) : Nat :=
  let shifted := (day.month + 9) % 12
  let year := if day.month ≤ 2 then day.year - 1 else day.year
  daysBeforeYear year + (153 * shifted + 2) / 5 + day.day

/-- Whether a year has a leap day. -/
def isLeapYear (year : Nat) : Bool :=
  year % 4 == 0 && (year % 100 != 0 || year % 400 == 0)

/-- The number of days of a month. -/
def daysOfMonth (year month : Nat) : Nat :=
  if month = 2 then (if isLeapYear year then 29 else 28)
  else if [4, 6, 9, 11].contains month then 30
  else 31

/-- Whether the calendar has the day; it begins with the year one. -/
def isValid (day : Day) : Bool :=
  1 ≤ day.year && day.year ≤ 9999 && 1 ≤ day.month && day.month ≤ 12 && 1 ≤ day.day &&
    day.day ≤ daysOfMonth day.year day.month

end Day

namespace Moment

/-- The microseconds up to the moment, in its own place. -/
def localMicroseconds (moment : Moment) : Int :=
  (((moment.date.number * 24 + moment.hour) * 60 + moment.minute) * 60 + moment.second : Nat) *
    1000000 + moment.microsecond

/-- Whether two moments are the same point in time; one without an offset is never the
same as one with it. -/
def isSame (first second : Moment) : Bool :=
  match first.offset, second.offset with
  | none, none => first.localMicroseconds == second.localMicroseconds
  | some ahead, some behind =>
    first.localMicroseconds - ahead * 1000000 == second.localMicroseconds - behind * 1000000
  | _, _ => false

end Moment

namespace Value

/-- The integer that a value counts as, if it counts as one. -/
def asInteger? : Value → Option Int
  | bool value => some (if value then 1 else 0)
  | int value => some value
  | float value => Binary64.toInt? value
  | _ => none

/-- Whether two values are one key. -/
def isSameKey (first second : Value) : Bool :=
  match asInteger? first, asInteger? second with
  | some left, some right => left == right
  | some _, none => false
  | none, some _ => false
  | none, none =>
    match first, second with
    | null, null => true
    | float left, float right => left == right
    | str left, str right => left == right
    | date left, date right => left == right
    | datetime left, datetime right => left.isSame right
    | bytes left, bytes right => left == right
    | _, _ => false

/-- Sets the entry under a key: one that is present keeps its place and its spelling. -/
def setEntryAt (key value : Value) : List (Value × Value) → List (Value × Value)
  | [] => [(key, value)]
  | (other, old) :: rest =>
    if isSameKey other key then (other, value) :: rest
    else (other, old) :: setEntryAt key value rest

end Value
end ProtocolTypes
