import RelationalQuery.Parameter.Encoding
import RelationalQuery.Sql.Tree

/-!
# Operators of filters

Below a column, or below a key inside a column of JSON, a filter names operators with their
operands.

Main definitions:

- `FilterOperator` is an operator, `FilterOperator.ofName?` reads its name.
- `FilterOperator.condition` is the condition of an operator with its operand.
- `operandExpr` binds an operand: as JSON below a key, and by the schema of the column otherwise.
-/

namespace RelationalQuery

open Sql (ColumnRef Comparison Condition Expr)

/-- An operator of a filter. -/
inductive FilterOperator where
  | equal
  | notEqual
  | greater
  | greaterOrEqual
  | less
  | lessOrEqual
  | isIn
  | isBetween
  | isNull
  | isMissing
  | startsWith
  | contains
deriving DecidableEq

namespace FilterOperator

/-- The name of an operator. -/
def name : FilterOperator → String
  | .equal => "equal"
  | .notEqual => "not"
  | .greater => "gt"
  | .greaterOrEqual => "gte"
  | .less => "lt"
  | .lessOrEqual => "lte"
  | .isIn => "isIn"
  | .isBetween => "isBetween"
  | .isNull => "isNull"
  | .isMissing => "isMissing"
  | .startsWith => "startsWith"
  | .contains => "contains"

/-- All operators. -/
def all : List FilterOperator :=
  [equal, notEqual, greater, greaterOrEqual, less, lessOrEqual, isIn, isBetween, isNull, isMissing,
    startsWith, contains]

/-- The operator with a given name. -/
def ofName? (name : String) : Option FilterOperator := all.find? (·.name == name)

/-- The name of an operator names it. -/
@[simp] theorem ofName?_name (operator : FilterOperator) :
    ofName? operator.name = some operator := by
  cases operator <;> decide

end FilterOperator

/-! ## Operands -/

/-- The operand for a comparison with a column: null is the literal. -/
def operandExpr (value : Json) (field? : Option Field) (column : ColumnRef) :
    Except QueryError Expr :=
  if value.isNull then .ok .null
  else if column.path.isEmpty then .parameter <$> Parameter.ofValue value field?
  else .ok (.parameter (.json value))

/-- The addressed value as text. -/
def textExpr (column : ColumnRef) : Expr :=
  if column.path.isEmpty then .column column else .columnText column

/-- The condition that the addressed value is missing: a column is null, or an object does not have
the key. -/
def missingCondition (column : ColumnRef) (isMissing : Bool) : Condition :=
  match column.path.getLast? with
  | none => .nullCheck (.column column) isMissing
  | some key =>
    let hasKey : Condition := .hasKey { column with path := column.path.dropLast } key
    if isMissing then .not hasKey else hasKey

/-- The truth value of an operand. -/
def flagOperand (value : Json) (path : String) : Except QueryError Bool :=
  match value.bool? with
  | some flag => .ok flag
  | none => .error (.malformed path .flagNotBoolean)

/-! ## Conditions -/

/-- The condition of an operator with its operand on a column. -/
def FilterOperator.condition (operator : FilterOperator) (value : Json) (field? : Option Field)
    (column : ColumnRef) (path : String) : Except QueryError Condition :=
  let left : Expr := .column column
  let compare (comparison : Comparison) : Except QueryError Condition :=
    .compare left comparison <$> operandExpr value field? column
  match operator with
  | .equal => if value.isNull then .ok (.nullCheck left true) else compare .equal
  | .notEqual => if value.isNull then .ok (.nullCheck left false) else compare .notEqual
  | .greater => compare .greater
  | .greaterOrEqual => compare .greaterOrEqual
  | .less => compare .less
  | .lessOrEqual => compare .lessOrEqual
  | .isIn =>
    match value with
    | .array items => .inList left <$> items.mapM fun item => operandExpr item field? column
    | _ => .error (.malformed path .listNotArray)
  | .isBetween =>
    match value with
    | .array [low, high] => do
      let lowExpr ← operandExpr low field? column
      return .between left lowExpr (← operandExpr high field? column)
    | _ => .error (.malformed path .rangeNotPair)
  | .isNull => .nullCheck left <$> flagOperand value path
  | .isMissing => missingCondition column <$> flagOperand value path
  | .startsWith =>
    match value with
    | .string _ => .ok (.startsWith (textExpr column) (.parameter (.plain value)))
    | _ => .error (.malformed path .leadNotString)
  | .contains =>
    match value with
    | .string _ => .ok (.containsText (textExpr column) (.parameter (.plain value)))
    | .array _ => .ok (.compare left .contains (.parameter (.json value)))
    | .object _ => .ok (.compare left .contains (.parameter (.json value)))
    | _ => .error (.malformed path .contentNotComparable)

end RelationalQuery
