import RelationalQuery.Query.Writing
import RelationalQuery.Sql.Patch

/-!
# Alterations

The data of an update holds new values for columns and entries for relations.  A number can be given
as an operation on the current value, and an object with fixed keys is patched key by key.  Related
rows are connected by their key, or get new values of their own.

Main definitions:

- `WriteContext.fieldAssignments` are the assignments of the entry of a column.
- `AlterationStep` is the change of the related rows of a relation; `AlterationPlan` are all
  changes.
- `WriteContext.alterationPlan` checks the data and gives the plan.
- `WriteContext.update` compiles an update.
-/

namespace RelationalQuery

open Sql (ArithmeticOperator Assignment Chain ColumnRef Condition Expr FromItem Patch Projection
  Select Statement)

/-! ## Operations on numbers -/

/-- The operator that a word names. -/
def Sql.ArithmeticOperator.ofWord? (word : String) : Option ArithmeticOperator :=
  if word = "increment" then some .add
  else if word = "decrement" then some .subtract
  else if word = "multiply" then some .multiply
  else if word = "divide" then some .divide
  else none

/-- The type in which a number field is computed. -/
def numericType (field : Field) : String := if field.isInteger then "bigint" else "numeric"

/-- The value can be an operand for a number field: a number, for integers one written as an
integer. -/
def isOperand (field : Field) (value : Json) : Bool :=
  match value with
  | .number n => !field.isInteger || n.int?.isSome
  | _ => false

/-- The operator and the operand of an operation on a number field. -/
def atomicOperation (members : Members) (field : Field) (path : String) :
    Except QueryError (ArithmeticOperator × Parameter) :=
  match members with
  | [(word, operand)] => do
    let some operator := ArithmeticOperator.ofWord? word
      | throw (.malformed (joinPath path word) .unknownOperation)
    if isOperand field operand then return (operator, .plain operand)
    throw (.invalidValue (joinPath path word) (.badOperand (numericType field)))
  | _ => .error (.malformed path .notOneOperation)

/-- The expression of an operation on a column or on a key inside it. -/
def operationExpr (target : ColumnRef) (members : Members) (field : Field) (path : String) :
    Except QueryError Expr := do
  let (operator, operand) ← atomicOperation members field path
  return .operation target operator operand (numericType field)

/-- The members of a value that is an operation because its field is a number. -/
def operationMembers? (field : Field) (value : Json) : Option Members :=
  if field.isNumber then value.members? else none

/-! ## Assignments -/

namespace WriteContext

/-- Check the value of one field. -/
def validateField (context : WriteContext) (key : String) (value : Json) (schema : ObjectSchema)
    (path : String) : Compilation Unit :=
  context.validate [(key, value)] schema path .partialRecord

/-- The value of a key in a patch. -/
def patchExpr (context : WriteContext) (column : String) (schema : ObjectSchema) (path : String)
    (qualifier? : Option String) (entry : String × Json) : Compilation Expr := do
  let (key, value) := entry
  let field ← schema.field key path
  match operationMembers? field value with
  | some members =>
    operationExpr ((⟨qualifier?, column, []⟩ : ColumnRef).key key) members field (joinPath path key)
  | none =>
    context.validateField key value schema path
    return if value.isNull then .null else .parameter (.json value)

/-- The assignments that patch an object. -/
def patchAssignments (context : WriteContext) (column : String) (members : Members)
    (schema : ObjectSchema) (path : String) (qualifier? : Option String) :
    Compilation (List Assignment) := do
  let entries ← members.mapM fun entry => do
    return (entry.1, ← context.patchExpr column schema path qualifier? entry)
  let patch := entries.foldl (fun patch entry => patch.set entry.1 entry.2)
    (Patch.empty column qualifier?)
  return if patch.entries.isEmpty then [] else patch.assignments schema

/-- The schema and the members of an object that is patched key by key. -/
def patched? (field : Field) (value : Json) : Option (ObjectSchema × Members) :=
  if field.isPlainObject then
    match field.objectSchema?, value.members? with
    | some schema, some members => some (schema, members)
    | _, _ => none
  else none

/-- The assignments of the entry of a column.  The qualifier is for reading current values in a
statement that reads further rows. -/
def fieldAssignments (context : WriteContext) (schema : ObjectSchema) (path : String)
    (qualifier? : Option String) (entry : String × Json) : Compilation (List Assignment) := do
  let (key, value) := entry
  let field ← schema.field key path
  let keyPath := joinPath path key
  match operationMembers? field value, patched? field value with
  | some members, _ =>
    return [.column key (← operationExpr ⟨qualifier?, key, []⟩ members field keyPath)]
  | none, some (nested, members) =>
    context.patchAssignments key members nested keyPath qualifier?
  | none, none =>
    context.validateField key value schema path
    return [.column key (← fieldExpr value field)]

end WriteContext

/-! ## Plans -/

/-- The change of the related rows of a relation. -/
structure AlterationStep where
  relation : Relation
  assignments : List Assignment

/-- The assignments to the rows of the table, and the changes of related rows. -/
structure AlterationPlan where
  own : List Assignment
  steps : List AlterationStep

namespace AlterationPlan

/-- The plan without changes. -/
def empty : AlterationPlan := ⟨[], []⟩

/-- Assign to rows of the table. -/
def assign (plan : AlterationPlan) (assignments : List Assignment) : AlterationPlan :=
  { plan with own := plan.own ++ assignments }

/-- Change related rows; without assignments nothing is changed. -/
def change (plan : AlterationPlan) (relation : Relation) (assignments : List Assignment) :
    AlterationPlan :=
  if assignments.isEmpty then plan
  else { plan with steps := plan.steps ++ [⟨relation, assignments⟩] }

end AlterationPlan

namespace WriteContext

/-- Connect rows by the key on the side that holds it. -/
def connect (context : WriteContext) (table : Table) (path : String) (plan : AlterationPlan)
    (relation : Relation) (payload : Members) (key : Json) : Compilation AlterationPlan := do
  if payload.length > 1 then throw (.malformed path .connectNotAlone)
  let column := relation.linkColumn
  if relation.shape.isInverse then
    context.validate payload relation.relatedSchema path .partialRecord
    let field ← relation.relatedSchema.field column path
    return plan.change relation [.column relation.sourceColumn (← fieldExpr key field)]
  else
    context.validate payload table.schema table.name .partialRecord
    let field ← table.schema.field column table.name
    return plan.assign [.column column (← fieldExpr key field)]

/-- Add the entry of a relation to a plan, if the data has one. -/
def addRelation (context : WriteContext) (table : Table) (data : Members) (plan : AlterationPlan)
    (relation : Relation) : Compilation AlterationPlan := do
  let path := joinPath table.name relation.name
  match data.get? relation.name with
  | none => return plan
  | some (.object payload) =>
    match Members.get? payload relation.linkColumn with
    | some key => context.connect table path plan relation payload key
    | none =>
      let assignments ← payload.mapM
        (context.fieldAssignments relation.relatedSchema path (some relation.relatedTable))
      return plan.change relation assignments.flatten
  | some _ => throw (.malformed path .relationUpdateNotObject)

/-- Check the data of an update: its columns in the order of the data, and its relations in the
order of their declaration. -/
def alterationPlan (context : WriteContext) (table : Table) (data : Members) :
    Compilation AlterationPlan := do
  let columns := data.filter fun entry => (table.relation? entry.1).isNone
  let own ← columns.mapM (context.fieldAssignments table.schema table.name none)
  table.relations.foldlM (context.addRelation table data) (AlterationPlan.empty.assign own.flatten)

end WriteContext

/-! ## Statements -/

namespace AlterationPlan

/-- The columns of the changed rows that later statements read. -/
def carriedColumns (plan : AlterationPlan) (table : Table) (select? include? : Option Json) :
    List String :=
  (plan.steps.map (·.relation.targetColumn) ++
    if select?.isSome || include?.isSome then requiredColumns select? include? table
    else []).eraseDups

/-- The statement for the rows of the table.  If nothing is assigned to them, they are only
selected. -/
def ownStatement (plan : AlterationPlan) (table : String) (condition? : Option Condition)
    (returning : List Projection) : Statement :=
  if plan.own.isEmpty then
    let columns := if returning.isEmpty then [Projection.plain (.raw "1")] else returning
    .select { Select.ofColumns columns (.table table none) with where? := condition? }
  else .update ⟨some table, plan.own, [], condition?, returning⟩

/-- The statement for the related rows of a step; they are joined to the rows of the table. -/
def stepStatement (main : String) (step : AlterationStep) : Statement :=
  let relation := step.relation
  .update {
    table? := some relation.relatedTable
    assignments := step.assignments
    sources := [main]
    where? := some (.equal (.column (.qualified relation.relatedTable relation.sourceColumn))
      (.reference main relation.targetColumn))
    returning := [] }

/-- What the statement for the rows of the table returns: without steps the projection, and
otherwise what later statements read. -/
def returning (plan : AlterationPlan) (context : ProjectionContext) (table : Table)
    (select? include? : Option Json) : Naming (List Projection) := do
  if !plan.steps.isEmpty then
    return (plan.carriedColumns table select? include?).map Projection.column
  if select?.isSome || include?.isSome then
    context.projections select? include? table.name table.name
  else return []

/-- The chain of some statements.  A selection is added if there are steps and something is read. -/
def chainOf (plan : AlterationPlan) (context : ProjectionContext) (table : Table)
    (select? include? : Option Json) (statements : List Statement) : Compilation Chain := do
  let stem := context.config.chainStem
  let main := numberedName stem 0
  if !plan.steps.isEmpty && (select?.isSome || include?.isSome) then
    let columns ← Compilation.naming (context.projections select? include? table.name main)
    return ⟨stem, statements ++ [.select (.ofColumns columns (.table main none))]⟩
  return ⟨stem, statements⟩

/-- The chain of a plan. -/
def chain (plan : AlterationPlan) (context : ProjectionContext) (table : Table)
    (filter? select? include? : Option Json) : Compilation Chain := do
  let condition? ← Compilation.naming (context.conditionOn? filter? table.name none)
  let returning ← Compilation.naming (plan.returning context table select? include?)
  if plan.own.isEmpty then Compilation.emit (.emptyUpdate table.name)
  let main := numberedName context.config.chainStem 0
  plan.chainOf context table select? include?
    (plan.ownStatement table.name condition? returning :: plan.steps.map (stepStatement main))

end AlterationPlan

/-- Compile an update. -/
def WriteContext.update (context : WriteContext) (table : String) (data : Json)
    (filter? select? include? : Option Json) : Compilation Chain := do
  let info ← context.repository.table table
  let some members := data.members? | throw (.malformed table .updateNotObject)
  let plan ← context.alterationPlan info members
  plan.chain context.projection info filter? select? include?

end RelationalQuery
