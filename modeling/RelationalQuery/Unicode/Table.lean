import RelationalQuery.Text.Digit
import RelationalQuery.Text.Split

/-!
# Tables of characters

A table gives values to runs of consecutive characters.  In text it is a sequence of words: the code
points of the first and the last character of a run in hexadecimal digits with a hyphen between
them, or of the only one, and behind an equals sign the value.

Main definitions:

- `Unicode.Table` is a table; `Unicode.Table.value?` is the value of a character.
- `Unicode.Table.ofLines` reads a table.
-/

namespace RelationalQuery.Unicode

/-- The character is in ASCII. -/
def isAscii (c : Char) : Bool := c.toNat < 0x80

/-- Consecutive code points that share a value. -/
structure Run (α : Type) where
  first : Nat
  last : Nat
  value : α

/-- Runs of characters behind ASCII. -/
abbrev Table (α : Type) := List (Run α)

namespace Table

/-- The run that a character lies in. -/
def run? (table : Table α) (c : Char) : Option (Run α) :=
  if isAscii c then none
  else table.find? fun run => run.first ≤ c.toNat && c.toNat ≤ run.last

/-- The value of a character. -/
def value? (table : Table α) (c : Char) : Option α := (table.run? c).map Run.value

/-- The character lies in a run of the table. -/
def covers (table : Table α) (c : Char) : Bool := (table.run? c).isSome

end Table

/-! ## Tables in text -/

/-- The number that hexadecimal digits stand for. -/
def codeOf (digits : List Char) : Nat :=
  digits.foldl (fun n digit => 16 * n + (Text.hexValue? digit).getD 0) 0

/-- The numbers that hexadecimal digits with points between them stand for. -/
def codesOf (text : List Char) : List Nat :=
  ((Text.fields '.' text).filter (!·.isEmpty)).map codeOf

/-- The run that a word stands for. -/
def Run.ofWord (read : List Char → α) (word : List Char) : Run α :=
  let codes := (Text.fields '-' (word.takeWhile (· ≠ '='))).map codeOf
  ⟨codes.head?.getD 0, codes.getLast?.getD 0, read ((word.dropWhile (· ≠ '=')).drop 1)⟩

/-- The table that lines of words stand for. -/
def Table.ofLines (read : List Char → α) (lines : List String) : Table α :=
  lines.flatMap fun line => (Text.fields ' ' line.toList).map (Run.ofWord read)

end RelationalQuery.Unicode
