import RelationalQuery.Compilation
import RelationalQuery.Projection.Basic
import RelationalQuery.Sql.Chain

/-!
# Written values and their context

Main definitions:

- `WriteContext` holds the tables, the settings and the validator of a write.
- `fieldExpr` and `encodedRecord` bind validated values by their schema.
- `relationPayload` is the record inside the entry of a relation.
- `isSelected` tells whether a select or an include tree names a relation.
-/

namespace RelationalQuery

open Sql (Expr Record)

/-- The tables, the settings and the validator of a write. -/
structure WriteContext where
  repository : Repository
  config : Config
  validator : Validator

namespace WriteContext

/-- The context of the projections of a write. -/
def projection (context : WriteContext) : ProjectionContext :=
  ⟨context.repository, context.config⟩

/-- Check a record. -/
def validate (context : WriteContext) (record : Members) (schema : ObjectSchema) (path : String)
    (mode : ValidationMode) : Compilation Unit :=
  Compilation.validate context.validator record schema path mode

end WriteContext

/-! ## Values -/

/-- A value of a field as an expression: null is the literal. -/
def fieldExpr (value : Json) (field : Field) : Except QueryError Expr :=
  if value.isNull then .ok .null else .parameter <$> Parameter.ofValue value (some field)

/-- The columns of a record with their values. -/
def encodedEntries (record : Members) (schema : ObjectSchema) (path : String) :
    Except QueryError (List (String × Expr)) :=
  record.mapM fun entry => do
    let field ← schema.field entry.1 path
    return (entry.1, ← fieldExpr entry.2 field)

/-- A record with its values bound by a schema. -/
def encodedRecord (record : Members) (schema : ObjectSchema) (path : String) :
    Except QueryError Record := do
  return Record.ofEntries (← encodedEntries record schema path)

/-- The record in the entry of a relation; null and an object without members hold none. -/
def relationPayload (value : Json) (path : String) : Except QueryError (Option Members) :=
  match value with
  | .null => .ok none
  | .object [] => .ok none
  | .object members => .ok (some members)
  | _ => .error (.malformed path .relationPayloadNotObject)

/-! ## Selections -/

/-- A tree names a relation. -/
def isNamed (tree? : Option Json) (name : String) : Bool :=
  (includedAs? (Json.membersOf tree?) name).isSome

/-- A select or an include tree names a relation. -/
def isSelected (select? include? : Option Json) (name : String) : Bool :=
  isNamed select? name || isNamed include? name

end RelationalQuery
