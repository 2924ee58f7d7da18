import RelationalQuery.Filter.Operator

/-!
# Predicates on columns

The entry of a column in a filter is a value to compare with, null, or an object.  Which keys of an
object are operators and which are keys inside the column is decided by the schema of the column.

Main definitions:

- `predicates` are the conditions of a column and its entry, by recursion on the entry.
-/

namespace RelationalQuery

open Sql (ColumnRef Condition)

/-- What a key stands for below a column. -/
inductive PredicateKey where
  /-- A key inside the column; its field is known unless the column is extensible. -/
  | nested (field? : Option Field)
  | operator (operator : FilterOperator)
  | unexpected
  | unknownOperator

/-- What a key stands for: declared keys come first, then operators, then the other keys of an
extensible object. -/
def PredicateKey.ofKey (field? : Option Field) (key : String) : PredicateKey :=
  match field?.bind Field.objectSchema? with
  | some schema =>
    match schema.get? key with
    | some child => .nested (some child)
    | none =>
      match FilterOperator.ofName? key with
      | some op => .operator op
      | none => if field?.any Field.isDynamicObject then .nested none else .unexpected
  | none =>
    match FilterOperator.ofName? key with
    | some op => .operator op
    | none => .unknownOperator

mutual

/-- The conditions of a column, or of a key inside it, and its entry. -/
def predicates (field? : Option Field) (column : ColumnRef) (path : String) :
    Json → Except QueryError (List Condition)
  | .null => .ok [.nullCheck (.column column) true]
  | .object members => memberPredicates field? column path members
  | .array items =>
    if field?.any Field.isJson || !column.path.isEmpty then do
      return [.equal (.column column) (← operandExpr (.array items) field? column)]
    else .error (.malformed path .arrayWithoutOperator)
  | value => do return [.equal (.column column) (← operandExpr value field? column)]

/-- The conditions of the members of an entry. -/
def memberPredicates (field? : Option Field) (column : ColumnRef) (path : String) :
    List (String × Json) → Except QueryError (List Condition)
  | [] => .ok []
  | (key, value) :: rest => do
    let keyPath := joinPath path key
    let first ← match PredicateKey.ofKey field? key with
      | .nested child? => predicates child? (column.key key) keyPath value
      | .operator op => do pure [← op.condition value field? column keyPath]
      | .unexpected => .error (.unexpectedField keyPath)
      | .unknownOperator => .error (.malformed keyPath .unknownOperator)
    return first ++ (← memberPredicates field? column path rest)

end

end RelationalQuery
