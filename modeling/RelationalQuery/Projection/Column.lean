import RelationalQuery.Relation.Repository
import RelationalQuery.Sql.Tree

/-!
# Selected columns

The entry of a column in a select tree is a flag, or for an object a select tree over its keys.

Main definitions:

- `columnFields` are the output fields of the entry of a column.
- `nestedFields` are the entries of the object for a select tree over keys, by recursion on it.
- `requiredColumns` are the columns that a select and an include tree read.
-/

namespace RelationalQuery

open Sql (ColumnRef Expr)

/-- What a key of a select tree below an object stands for: a declared field, a key of its own in an
extensible object, or nothing. -/
def nestedField (field : Field) (key keyPath : String) : Except QueryError (Option Field) :=
  match field.objectSchema?.bind (·.get? key) with
  | some child => .ok (some child)
  | none => if field.isDynamicObject then .ok none else .error (.unexpectedField keyPath)

mutual

/-- The output field of the entry of a key: nothing, the value of the key, or an object of keys
inside it. -/
def nestedEntry (field? : Option Field) (target : ColumnRef) (key keyPath : String) :
    Json → Except QueryError (List (String × Expr))
  | .bool false => .ok []
  | .bool true => .ok [(key, .column target)]
  | .object members =>
    match field? with
    | some field =>
      if field.isObject then do
        return [(key, .object (← nestedFields field target keyPath members))]
      else .error (.malformed keyPath .fieldSelectionNotFlag)
    | none => .error (.malformed keyPath .fieldSelectionNotFlag)
  | _ => .error (.malformed keyPath .fieldSelectionNotFlag)

/-- The entries of the object for a select tree over the keys of an object. -/
def nestedFields (field : Field) (base : ColumnRef) (path : String) :
    List (String × Json) → Except QueryError (List (String × Expr))
  | [] => .ok []
  | (key, value) :: rest => do
    let keyPath := joinPath path key
    let child? ← nestedField field key keyPath
    let first ← nestedEntry child? (base.key key) key keyPath value
    return first ++ (← nestedFields field base path rest)

end

/-- The output fields of the entry of a column. -/
def columnFields (table : Table) (scope path key : String) (value : Json) :
    Except QueryError (List (String × Expr)) := do
  let field ← table.schema.field key path
  nestedEntry (some field) (.qualified scope key) key (joinPath path key) value

/-- All columns of a table as output fields. -/
def allColumnFields (table : Table) (scope : String) : List (String × Expr) :=
  table.schema.fieldNames.map fun name => (name, .column (.qualified scope name))

/-! ## Columns that are read -/

/-- The column that the entry of a key reads: the join column of a relation, or else the column
itself. -/
def readColumn (table : Table) (key : String) : String :=
  match table.relation? key with
  | some relation => relation.targetColumn
  | none => key

/-- The columns that a select tree reads; without one, all columns. -/
def selectedColumns (select? : Option Json) (table : Table) : List String :=
  match select?.bind Json.members? with
  | some members =>
    (members.filter (·.2 != .bool false)).map fun entry => readColumn table entry.1
  | none => table.schema.fieldNames

/-- The join columns of the relations of an include tree. -/
def includedColumns (include? : Option Json) (table : Table) : List String :=
  ((include?.bind Json.members?).getD []).filterMap fun entry =>
    (table.relation? entry.1).map (·.targetColumn)

/-- The columns that a select and an include tree read, each once. -/
def requiredColumns (select? include? : Option Json) (table : Table) : List String :=
  (selectedColumns select? table ++ includedColumns include? table).eraseDups

end RelationalQuery
