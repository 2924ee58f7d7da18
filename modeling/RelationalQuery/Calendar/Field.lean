import RelationalQuery.Text.Blank
import RelationalQuery.Text.Digit

/-!
# Numeric fields of dates and times

A reader takes the characters that are left and returns a value with the characters behind it.

Main definitions:

- `Calendar.digits?` reads between a least and a largest number of digits.
- `Calendar.field?` reads up to two digits behind any blanks, and `Calendar.yearField?` a year: four
  digits at most, or any number of them behind a sign.
- `Calendar.literal?` reads one given character, and `Calendar.fraction?` a fraction of a second.
-/

namespace RelationalQuery.Calendar

/-- A reader of a value. -/
abbrev Reader (α : Type) := List Char → Option (α × List Char)

/-- At least `least` and at most `most` digits; further digits are left. -/
def digits? (least most : Nat) : Reader Nat := fun cs =>
  let found := (cs.take most).takeWhile Text.isDigit
  if found.length < least then none
  else some (Text.decimalValue found, cs.drop found.length)

/-- All digits that follow, of which there must be at least one. -/
def allDigits? : Reader Nat := fun cs => digits? 1 cs.length cs

/-- One given character. -/
def literal? (expected : Char) : List Char → Option (List Char)
  | [] => none
  | c :: rest => if c = expected then some rest else none

/-- One or two digits behind any blanks. -/
def field? : Reader Nat := fun cs => digits? 1 2 (Text.skipBlanks cs)

/-- A year behind any blanks: one to four digits, or a sign and any number of digits. -/
def yearField? : Reader Int := fun cs =>
  match Text.skipBlanks cs with
  | '-' :: rest => (allDigits? rest).map fun (year, rest) => (-(year : Int), rest)
  | '+' :: rest => (allDigits? rest).map fun (year, rest) => ((year : Int), rest)
  | cs => (digits? 1 4 cs).map fun (year, rest) => ((year : Int), rest)

/-- The nanoseconds of a fraction without its point: nine digits count, further ones are
dropped. -/
def nanoseconds? : Reader Nat := fun cs =>
  (digits? 1 9 cs).map fun (value, rest) =>
    (value * Nat.pow 10 (9 - (cs.length - rest.length)), rest.dropWhile Text.isDigit)

/-- The nanoseconds of an optional fraction with its point. -/
def fraction? : Reader Nat
  | '.' :: rest => nanoseconds? rest
  | cs => some (0, cs)

end RelationalQuery.Calendar
