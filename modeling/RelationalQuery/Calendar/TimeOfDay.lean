import RelationalQuery.Calendar.Field
import RelationalQuery.Text.Decimal

/-!
# Times of day

A time of day has a precision of one nanosecond.  The second 60 of any minute is a leap second; it
is kept as the second before it with at least a whole second of nanoseconds.

Main definitions:

- `TimeOfDay` is a time; `TimeOfDay.ofClock?` makes one from hour, minute, second and nanoseconds.
- `TimeOfDay.ofFullText?` reads `HOUR:MINUTE:SECOND` with an optional fraction, and
  `TimeOfDay.ofText?` also reads `HOUR:MINUTE`.
- `TimeOfDay.microseconds` counts from midnight.
-/

namespace RelationalQuery

open Calendar

/-- A time of day: the second of the day, and the nanoseconds since it began; in a leap second they
exceed one second. -/
structure TimeOfDay where
  second : Nat
  nanosecond : Nat
  second_lt : second < 86400
  nanosecond_lt : nanosecond < 2000000000
deriving DecidableEq

namespace TimeOfDay

/-- The time with the given second of the day and nanoseconds. -/
def make? (second nanosecond : Nat) : Option TimeOfDay :=
  if h : second < 86400 ∧ nanosecond < 2000000000 then some ⟨second, nanosecond, h.1, h.2⟩ else none

/-- The time that a clock shows; the second 60 is a leap second. -/
def ofClock? (hour minute second nanosecond : Nat) : Option TimeOfDay :=
  if hour < 24 ∧ minute < 60 ∧ second ≤ 60 then
    let start := (hour * 60 + minute) * 60
    if second = 60 then make? (start + 59) (1000000000 + nanosecond)
    else make? (start + second) nanosecond
  else none

/-- The whole microseconds since midnight. -/
def microseconds (time : TimeOfDay) : Nat := time.second * 1000000 + time.nanosecond / 1000

/-! ## Text -/

/-- Read a time with seconds and an optional fraction at the front of a text. -/
def readFull? : Reader TimeOfDay := fun cs => do
  let (hour, cs) ← field? cs
  let (minute, cs) ← field? (← literal? ':' cs)
  let (second, cs) ← field? (← literal? ':' cs)
  let (nanosecond, cs) ← fraction? cs
  return (← ofClock? hour minute second nanosecond, cs)

/-- Read a time without seconds at the front of a text. -/
def readShort? : Reader TimeOfDay := fun cs => do
  let (hour, cs) ← field? cs
  let (minute, cs) ← field? (← literal? ':' cs)
  return (← ofClock? hour minute 0 0, cs)

/-- The time with seconds written by a whole text. -/
def ofFullText? (text : String) : Option TimeOfDay :=
  match readFull? text.toList with
  | some (time, []) => some time
  | _ => none

/-- The time written by a whole text, with or without seconds. -/
def ofText? (text : String) : Option TimeOfDay :=
  match ofFullText? text with
  | some time => some time
  | none =>
    match readShort? text.toList with
    | some (time, []) => some time
    | _ => none

/-- The text of a fraction of a second: nothing, or three, six or nine digits behind a point. -/
def fractionText (nanosecond : Nat) : String :=
  if nanosecond = 0 then ""
  else if nanosecond % 1000000 = 0 then "." ++ Text.padded 3 (nanosecond / 1000000)
  else if nanosecond % 1000 = 0 then "." ++ Text.padded 6 (nanosecond / 1000)
  else "." ++ Text.padded 9 nanosecond

/-- The text of a time; a leap second is written as the second 60. -/
def text (time : TimeOfDay) : String :=
  let leap := time.nanosecond / 1000000000
  Text.padded 2 (time.second / 3600) ++ ":" ++ Text.padded 2 (time.second / 60 % 60) ++ ":" ++
    Text.padded 2 (time.second % 60 + leap) ++ fractionText (time.nanosecond % 1000000000)

end TimeOfDay

end RelationalQuery
