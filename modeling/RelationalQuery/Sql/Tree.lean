import RelationalQuery.Parameter.Basic

/-!
# Expressions, conditions and selections

Expressions, conditions and selections nest into each other.  They are plain data; names are checked
only when they are rendered.

Main definitions:

- `ColumnRef` is a column, or a key inside a column of JSON.
- `Expr`, `Condition` and `Select` are the trees.
- `Condition.andAlso` and `Condition.all` join conditions.
- `Select.restrict` adds a condition to a selection.
-/

namespace RelationalQuery.Sql

/-! ## Columns and operators -/

/-- A column with an optional qualifier, or the value at a path of keys inside it. -/
structure ColumnRef where
  qualifier? : Option String
  name : String
  path : List String
deriving DecidableEq

namespace ColumnRef

/-- A column without a qualifier. -/
def plain (name : String) : ColumnRef := ⟨none, name, []⟩

/-- A column of the given table, query or alias. -/
def qualified (qualifier name : String) : ColumnRef := ⟨some qualifier, name, []⟩

/-- The value of a further key. -/
def key (column : ColumnRef) (key : String) : ColumnRef :=
  { column with path := column.path ++ [key] }

end ColumnRef

/-- An operator of arithmetic. -/
inductive ArithmeticOperator where
  | add
  | subtract
  | multiply
  | divide
deriving DecidableEq

/-- The symbol of an operator. -/
def ArithmeticOperator.symbol : ArithmeticOperator → String
  | .add => "+"
  | .subtract => "-"
  | .multiply => "*"
  | .divide => "/"

/-- An operator that compares two values. -/
inductive Comparison where
  | equal
  | notEqual
  | greater
  | greaterOrEqual
  | less
  | lessOrEqual
  | like
  /-- The left JSON value contains the right one. -/
  | contains
deriving DecidableEq

/-- The symbol of a comparison. -/
def Comparison.symbol : Comparison → String
  | .equal => "="
  | .notEqual => "!="
  | .greater => ">"
  | .greaterOrEqual => ">="
  | .less => "<"
  | .lessOrEqual => "<="
  | .like => "LIKE"
  | .contains => "@>"

/-- The direction of an order. -/
inductive Direction where
  | ascending
  | descending
deriving DecidableEq

/-! ## Trees -/

mutual

/-- An expression. -/
inductive Expr where
  /-- The literal null. -/
  | null
  | parameter (value : Parameter)
  | column (column : ColumnRef)
  /-- The value at the path of a column as text. -/
  | columnText (column : ColumnRef)
  /-- A column of an earlier statement of the chain. -/
  | reference (source column : String)
  /-- The current value of the target combined with an operand.  Inside JSON the value is read as
  text, cast to the numeric type and stored as JSON. -/
  | operation (target : ColumnRef) (operator : ArithmeticOperator) (operand : Parameter)
      (numericType : String)
  | cast (value : Expr) (type : String)
  /-- A JSON object. -/
  | object (entries : List (String × Expr))
  /-- The array of the values of all rows in an order; without rows it is empty. -/
  | aggregate (value : Expr) (order : List OrderTerm)
  /-- A stored JSON object with some of its keys replaced. -/
  | merge (target : ColumnRef) (entries : List (String × Expr))
  | subquery (query : Select)
  /-- Trusted text. -/
  | raw (text : String)

/-- A key of an order. -/
structure OrderTerm where
  expr : Expr
  direction : Direction

/-- A column of a result. -/
structure Projection where
  expr : Expr
  alias? : Option String

/-- A condition. -/
inductive Condition where
  | and (conditions : List Condition)
  | or (conditions : List Condition)
  | not (condition : Condition)
  | compare (left : Expr) (comparison : Comparison) (right : Expr)
  | nullCheck (expr : Expr) (isNull : Bool)
  | inList (expr : Expr) (values : List Expr)
  | between (expr low high : Expr)
  | startsWith (expr lead : Expr)
  | containsText (expr needle : Expr)
  /-- The JSON object in the column has the key. -/
  | hasKey (column : ColumnRef) (key : String)
  | exists (query : Select) (negated : Bool)
  /-- Trusted text. -/
  | raw (text : String)

/-- The rows that a selection reads. -/
inductive FromItem where
  | table (name : String) (alias? : Option String)
  | subquery (query : Select) (label : String)
  /-- The rows of several statements of the chain, one after the other. -/
  | unionAll (sources : List String) (label : String)

/-- A selection; without columns it has all columns of its rows. -/
structure Select where
  columns : List Projection
  from? : Option FromItem
  where? : Option Condition
  order : List OrderTerm
  limit? : Option UInt64
  offset? : Option UInt64

end

/-! ## Expressions -/

/-- A value as an expression; null is the literal. -/
def Expr.ofParameter (parameter : Parameter) : Expr :=
  if parameter.value.isNull then .null else .parameter parameter

/-- An output column under the name of its column. -/
def Projection.plain (expr : Expr) : Projection := ⟨expr, none⟩

/-- An output column under a name of its own. -/
def Projection.aliased (expr : Expr) (label : String) : Projection := ⟨expr, some label⟩

/-- A column of the only table of a statement as an output column. -/
def Projection.column (name : String) : Projection := .plain (.column (.plain name))

/-! ## Conditions -/

namespace Condition

/-- Two values are equal. -/
def equal (left right : Expr) : Condition := .compare left .equal right

/-- The parts of a group that all have to hold; another condition is its only part. -/
def parts : Condition → List Condition
  | .and conditions => conditions
  | condition => [condition]

/-- Both conditions hold; groups are joined into one. -/
def andAlso (left right : Condition) : Condition := .and (left.parts ++ right.parts)

/-- All conditions hold: none without conditions, and a single one as it is. -/
def all : List Condition → Option Condition
  | [] => none
  | [condition] => some condition
  | conditions => some (.and conditions)

/-- A condition that is added to one that may be there. -/
def added (existing? : Option Condition) (condition : Condition) : Condition :=
  match existing? with
  | some existing => existing.andAlso condition
  | none => condition

end Condition

/-! ## Selections -/

namespace Select

/-- A selection of all columns from the given rows. -/
def ofRows (rows : FromItem) : Select := ⟨[], some rows, none, [], none, none⟩

/-- A selection of the given columns from the given rows. -/
def ofColumns (columns : List Projection) (rows : FromItem) : Select :=
  ⟨columns, some rows, none, [], none, none⟩

/-- The selection with a further condition. -/
def restrict (select : Select) (condition : Condition) : Select :=
  { select with where? := some (Condition.added select.where? condition) }

/-- The selection with a further condition if there is one. -/
def restrict? (select : Select) (condition? : Option Condition) : Select :=
  match condition? with
  | some condition => select.restrict condition
  | none => select

/-- The selection is limited in its number of rows or skips some. -/
def isPaginated (select : Select) : Bool := select.limit?.isSome || select.offset?.isSome

end Select

namespace FromItem

/-- The rows of a table under an alias. -/
def aliased (name label : String) : FromItem := .table name (some label)

/-- The name by which other clauses refer to the rows. -/
def scope : FromItem → String
  | .table name alias? => alias?.getD name
  | .subquery _ label => label
  | .unionAll _ label => label

end FromItem

end RelationalQuery.Sql
