import RelationalQuery.Calendar.Date
import RelationalQuery.Calendar.TimeOfDay

/-!
# Timestamps

A timestamp is a date and a time of day in universal time.  It is read from the internet format with
an offset, or from a date and a time joined by `T`, which are then taken as universal time.

Main definitions:

- `Timestamp` is a point in time; `Timestamp.ofText?` reads one and `Timestamp.text` writes it.
- `Timestamp.microseconds` counts from the beginning of the year 2000.
-/

namespace RelationalQuery

open Calendar

/-- A date and a time of day in universal time. -/
structure Timestamp where
  date : Date
  time : TimeOfDay
deriving DecidableEq

namespace Timestamp

/-- The point in time that is `offset` seconds before the given local date and time; the nanoseconds
stay. -/
def ofLocal? (date : Date) (time : TimeOfDay) (offset : Int) : Option Timestamp := do
  let second : Int := time.second - offset
  let date ←
    if second < 0 then date.previous?
    else if 86400 ≤ second then date.next?
    else some date
  let time ← TimeOfDay.make? (second % 86400).toNat time.nanosecond
  return ⟨date, time⟩

/-- The microseconds since the beginning of the year 2000, with parts of a microsecond dropped
toward it. -/
def microseconds (timestamp : Timestamp) : Int :=
  ((timestamp.date.dayNumber * 86400 + timestamp.time.second) * 1000000000 +
    timestamp.time.nanosecond).tdiv 1000

/-! ## Text -/

/-- The largest offset in seconds: 23 hours and 59 minutes. -/
def maxOffset : Nat := (23 * 60 + 59) * 60

/-- Hours and minutes of an offset in seconds, two digits each. -/
def readOffsetMagnitude? : Reader Nat := fun cs => do
  let (hours, cs) ← digits? 2 2 cs
  let (minutes, cs) ← digits? 2 2 (← literal? ':' cs)
  let offset := (hours * 60 + minutes) * 60
  if minutes < 60 ∧ offset ≤ maxOffset then some (offset, cs) else none

/-- An offset from universal time: `Z`, or a sign with hours and minutes.  The minus sign may also
be the mathematical one. -/
def readOffset? : Reader Int
  | 'Z' :: rest => some (0, rest)
  | 'z' :: rest => some (0, rest)
  | '+' :: rest => (readOffsetMagnitude? rest).map fun (offset, rest) => ((offset : Int), rest)
  | '-' :: rest => (readOffsetMagnitude? rest).map fun (offset, rest) => (-(offset : Int), rest)
  | '−' :: rest => (readOffsetMagnitude? rest).map fun (offset, rest) => (-(offset : Int), rest)
  | _ => none

/-- The character may stand between date and time in the internet format. -/
def isSeparator (c : Char) : Bool := c == 'T' || c == 't' || c == ' '

/-- Read the internet format at the front of a text: fields of fixed width, an optional fraction and
an offset. -/
def readInternet? : Reader Timestamp := fun cs => do
  let (year, cs) ← digits? 4 4 cs
  let (month, cs) ← digits? 2 2 (← literal? '-' cs)
  let (day, cs) ← digits? 2 2 (← literal? '-' cs)
  let separator ← cs.head?
  if !isSeparator separator then none
  let (hour, cs) ← digits? 2 2 (cs.drop 1)
  let (minute, cs) ← digits? 2 2 (← literal? ':' cs)
  let (second, cs) ← digits? 2 2 (← literal? ':' cs)
  let (nanosecond, cs) ← fraction? cs
  let (offset, cs) ← readOffset? cs
  let date ← Date.make? year month day
  let time ← TimeOfDay.ofClock? hour minute second nanosecond
  return (← ofLocal? date time offset, cs)

/-- Read a date and a time joined by `T` at the front of a text. -/
def readPlain? : Reader Timestamp := fun cs => do
  let (date, cs) ← Date.read? cs
  let (time, cs) ← TimeOfDay.readFull? (← literal? 'T' cs)
  return (⟨date, time⟩, cs)

/-- The timestamp written by a whole text. -/
def ofText? (text : String) : Option Timestamp :=
  match readInternet? text.toList with
  | some (timestamp, []) => some timestamp
  | _ =>
    match readPlain? text.toList with
    | some (timestamp, []) => some timestamp
    | _ => none

/-- The text of a timestamp with the offset of universal time. -/
def text (timestamp : Timestamp) : String :=
  timestamp.date.text ++ "T" ++ timestamp.time.text ++ "+00:00"

end Timestamp

end RelationalQuery
