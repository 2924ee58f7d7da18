import RelationalQuery.Schema.Format
import RelationalQuery.Relation.Shape
import RelationalQuery.Json.Printer

/-!
# Errors of a compilation

An error names its cause; the wording of every cause is fixed by `QueryError.message`.  Errors about
an input also hold the dotted path of the offending key.

Main definitions:

- `Malformation`, `ValueFault`, `StructuralFault`, `UnsupportedValue` and `RelationFault` are the
  causes.
- `QueryError` is an error; `QueryError.message` is its text and `QueryError.path?` its path.
- `joinPath` extends a dotted path.
-/

namespace RelationalQuery

/-- The path of a field below a path; at the top the field is the path. -/
def joinPath (parent field : String) : String :=
  if parent.isEmpty then field else parent ++ "." ++ field

/-- The path of an item of an array. -/
def itemPath (parent : String) (index : Nat) : String := parent ++ "." ++ Text.natural index

/-! ## Causes -/

/-- Why an input is malformed. -/
inductive Malformation where
  | unexpectedField
  | filterNotObject
  | negationNotObject
  | relationFilterNotObject
  | groupNotObjects
  | arrayWithoutOperator
  | unknownOperator
  | listNotArray
  | rangeNotPair
  | leadNotString
  | contentNotComparable
  | flagNotBoolean
  | includeEntryNotOptions
  | relationSelectionNotTree
  | fieldSelectionNotFlag
  | selectNotObject
  | includeNotObject
  | notARelation
  | orderEntryNotObject
  | orderNotObject
  | unknownDirection
  | notACount
  | insertNotObject
  | updateNotObject
  | repeatedForeignKey
  | connectNotAlone
  | pluralNotArray
  | keySetByParent
  | relationPayloadNotObject
  | relationUpdateNotObject
  | notOneOperation
  | unknownOperation
  | tableDefinitions
deriving DecidableEq

/-- The wording of a malformed input. -/
def Malformation.message : Malformation → String
  | .unexpectedField => "unexpected field"
  | .filterNotObject => "filter must be an object"
  | .negationNotObject => "NOT expects an object"
  | .relationFilterNotObject => "relation filter must be an object or null"
  | .groupNotObjects => "logical operator expects an object or an array of objects"
  | .arrayWithoutOperator => "array value needs an operator"
  | .unknownOperator => "unknown operator"
  | .listNotArray => "isIn expects an array"
  | .rangeNotPair => "isBetween expects an array of two values"
  | .leadNotString => "startsWith expects a string"
  | .contentNotComparable => "contains expects a string, an array or an object"
  | .flagNotBoolean => "expected a boolean"
  | .includeEntryNotOptions => "include entry must be true or an object"
  | .relationSelectionNotTree => "relation selection must be a boolean or an object"
  | .fieldSelectionNotFlag => "field selection must be a boolean"
  | .selectNotObject => "select must be an object"
  | .includeNotObject => "include must be an object"
  | .notARelation => "not a relation"
  | .orderEntryNotObject => "order entries must be objects"
  | .orderNotObject => "order must be an object or an array"
  | .unknownDirection => "direction must be \"asc\" or \"desc\""
  | .notACount => "expected a non-negative integer"
  | .insertNotObject => "insert data must be an object"
  | .updateNotObject => "update data must be an object"
  | .repeatedForeignKey => "foreign key is set more than once"
  | .connectNotAlone => "connect accepts only the foreign key"
  | .pluralNotArray => "plural relation expects an array"
  | .keySetByParent => "set from the parent row"
  | .relationPayloadNotObject => "relation payload must be an object"
  | .relationUpdateNotObject => "relation update must be an object"
  | .notOneOperation =>
    "atomic update names exactly one of increment, decrement, multiply, divide"
  | .unknownOperation => "invalid atomic operation"
  | .tableDefinitions => "invalid table definitions"

/-- Why a value is invalid. -/
inductive ValueFault where
  | nullNotAllowed
  | wrongType (expected : FieldType) (found : Json)
  | notInteger
  | badFormat (format : StringFormat) (found : String)
  | noAlternative
  | missingField
  | badOperand (numericType : String)
  /-- The value is refused by a validator for a reason of its own. -/
  | refused (reason : String)
deriving DecidableEq

/-- The wording of an invalid value. -/
def ValueFault.message : ValueFault → String
  | .nullNotAllowed => "null is not allowed"
  | .wrongType expected found => "expected " ++ expected.name ++ ", got " ++ found.text
  | .notInteger => "expected an integer"
  | .badFormat format found => "invalid " ++ format.title ++ " string '" ++ found ++ "'"
  | .noAlternative => "value doesn't match any union alternative"
  | .missingField => "missing required field"
  | .badOperand numericType => "expected a " ++ numericType ++ " operand"
  | .refused reason => reason

/-- Why a statement or a table cannot be built. -/
inductive StructuralFault where
  | emptyIdentifier
  | nulInIdentifier
  | emptyChain
  | insertWithoutTable
  | insertWithoutRecord
  | updateWithoutTable
  | updateWithoutRecord
  | deleteWithoutTable
  | tableWithoutName
  | noPrimaryKey (table : String)
  | severalPrimaryIndexes (table : String)
  | widePrimaryIndex (index table : String)
deriving DecidableEq

/-- The wording of a structural fault. -/
def StructuralFault.message : StructuralFault → String
  | .emptyIdentifier => "identifier cannot be empty"
  | .nulInIdentifier => "identifier cannot contain NUL character"
  | .emptyChain => "statement chain is empty"
  | .insertWithoutTable => "INSERT requires a table"
  | .insertWithoutRecord => "INSERT requires a record"
  | .updateWithoutTable => "UPDATE requires a table"
  | .updateWithoutRecord => "UPDATE requires a record"
  | .deleteWithoutTable => "DELETE requires a table"
  | .tableWithoutName => "table definition without a name"
  | .noPrimaryKey table => "table '" ++ table ++ "' has no primary key"
  | .severalPrimaryIndexes table =>
    "table '" ++ table ++ "' declares more than one primary index"
  | .widePrimaryIndex index table =>
    "primary index '" ++ index ++ "' of table '" ++ table ++ "' must have exactly one column"

/-- Why a value has no parameter type. -/
inductive UnsupportedValue where
  | boundNull
  | untypedNull
deriving DecidableEq

/-- The wording of a value without a parameter type. -/
def UnsupportedValue.message : UnsupportedValue → String
  | .boundNull => "null can't be bound as a parameter"
  | .untypedNull => "can't detect a parameter type for null"

/-- Why a declared relation is invalid. -/
inductive RelationFault where
  | duplicateAlias
  | unknownTable (table : String)
  | noShape (target source : IndexKind)
  | aliasIsColumn
  | unknownTarget (column : String)
  | unknownSource (table column : String)
deriving DecidableEq

/-- The wording of an invalid relation. -/
def RelationFault.message : RelationFault → String
  | .duplicateAlias => "duplicate alias"
  | .unknownTable table => "unknown related table '" ++ table ++ "'"
  | .noShape target source =>
    "index kinds " ++ target.title ++ " -> " ++ source.title ++ " don't describe a relation"
  | .aliasIsColumn => "alias shadows a column"
  | .unknownTarget column => "unknown column '" ++ column ++ "'"
  | .unknownSource table column => "unknown column '" ++ table ++ "." ++ column ++ "'"

/-! ## Errors -/

/-- An error of a compilation. -/
inductive QueryError where
  | malformed (path : String) (cause : Malformation)
  | invalidValue (path : String) (cause : ValueFault)
  | structural (cause : StructuralFault)
  | unsupportedValue (cause : UnsupportedValue)
  | unknownTable (name : String)
  | invalidRelation (table relation : String) (cause : RelationFault)
deriving DecidableEq

namespace QueryError

/-- The wording of an error. -/
def message : QueryError → String
  | .malformed path cause => "Malformed input at '" ++ path ++ "': " ++ cause.message
  | .invalidValue path cause => "Invalid value at '" ++ path ++ "': " ++ cause.message
  | .structural cause => "Structural error: " ++ cause.message
  | .unsupportedValue cause => "Unsupported value: " ++ cause.message
  | .unknownTable name => "Unknown table: " ++ name
  | .invalidRelation table relation cause =>
    "Invalid relation '" ++ table ++ "." ++ relation ++ "': " ++ cause.message

/-- The path of the offending key. -/
def path? : QueryError → Option String
  | .malformed path _ => some path
  | .invalidValue path _ => some path
  | _ => none

/-- A key that is not expected where it stands. -/
def unexpectedField (path : String) : QueryError := .malformed path .unexpectedField

end QueryError

end RelationalQuery
