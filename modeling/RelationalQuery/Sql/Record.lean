import RelationalQuery.Entries
import RelationalQuery.Sql.Tree

/-!
# Written values

Main definitions:

- `Record` holds the values of a row by column, in the order in which the columns were first set.
- `Assignment` gives a value to a column, or to a key inside a column of JSON.
- `Expr.sources` are the earlier statements of a chain that an expression reads.
-/

namespace RelationalQuery.Sql

/-! ## Sources -/

mutual

/-- The earlier statements that an expression reads, in the order of their references.  A subquery
names its own sources. -/
def Expr.sources : Expr → List String
  | .reference source _ => [source]
  | .cast value _ => value.sources
  | .object entries => Expr.entrySources entries
  | .merge _ entries => Expr.entrySources entries
  | .aggregate value _ => value.sources
  | _ => []

/-- The earlier statements that the values of entries read. -/
def Expr.entrySources : List (String × Expr) → List String
  | [] => []
  | (_, value) :: rest => value.sources ++ Expr.entrySources rest

end

/-! ## Records -/

/-- The values of a row by column. -/
structure Record where
  entries : List (String × Expr)

namespace Record

/-- The record without columns. -/
def empty : Record := ⟨[]⟩

/-- Set a column; the value of a column that is already set is replaced in place. -/
def set (record : Record) (column : String) (value : Expr) : Record :=
  ⟨Entries.put record.entries column value⟩

/-- Set several columns one after the other. -/
def setAll (record : Record) (entries : List (String × Expr)) : Record :=
  entries.foldl (fun record entry => record.set entry.1 entry.2) record

/-- The record of the given columns, of which the last value of each counts. -/
def ofEntries (entries : List (String × Expr)) : Record := empty.setAll entries

/-- The record of the members of an object; null is written as a literal. -/
def ofMembers (members : Members) : Record :=
  ofEntries (members.map fun entry => (entry.1, Expr.ofParameter (.plain entry.2)))

/-- The value of a column. -/
def get? (record : Record) (column : String) : Option Expr := record.entries.lookup column

/-- A column is set. -/
def contains (record : Record) (column : String) : Bool := (record.get? column).isSome

/-- The columns in their order. -/
def columns (record : Record) : List String := Entries.names record.entries

/-- No column is set. -/
def isEmpty (record : Record) : Bool := record.entries.isEmpty

/-- The earlier statements that the values read, each once, in the order of first use. -/
def sources (record : Record) : List String := (Expr.entrySources record.entries).eraseDups

end Record

/-! ## Assignments -/

/-- A value for a column, or for a key inside a column of JSON. -/
structure Assignment where
  target : ColumnRef
  value : Expr

namespace Assignment

/-- A value for a column. -/
def column (name : String) (value : Expr) : Assignment := ⟨.plain name, value⟩

/-- The earlier statements that the values of assignments read. -/
def sources (assignments : List Assignment) : List String :=
  assignments.flatMap fun assignment => assignment.value.sources

end Assignment

end RelationalQuery.Sql
