import RelationalQuery.Query.Created

/-!
# Insertions

The data of an insert holds the columns of the new row and entries for its relations.  A relation
whose key the new row holds is either connected by that key or created first; the rows of the other
relations are created afterwards and refer to the new row.

Main definitions:

- `NewRow` is a related row that is created; `InsertPlan` are all rows of an insert.
- `WriteContext.insertPlan` checks the data and gives the plan.
- `InsertPlan.chain` is the chain of statements of a plan.
- `WriteContext.insert` compiles an insert.
-/

namespace RelationalQuery

open Sql (Chain Expr Insert Projection Record Statement)

/-- A related row that is created, without the column that links it. -/
structure NewRow where
  relation : Relation
  record : Record

/-- The rows of an insert: those that the new row refers to, the new row without these references,
and those that refer to it. -/
structure InsertPlan where
  parents : List NewRow
  own : Record
  children : List NewRow

/-! ## Rows that the new row refers to -/

/-- What is known of the new row while its foreign keys are collected. -/
structure ForeignKeys where
  own : Members
  parents : List NewRow

namespace ForeignKeys

/-- The columns that are set by references to created rows. -/
def linked (keys : ForeignKeys) : List String := keys.parents.map (·.relation.targetColumn)

/-- A column is already set. -/
def isSet (keys : ForeignKeys) (column : String) : Bool :=
  keys.own.contains column || keys.linked.contains column

end ForeignKeys

namespace WriteContext

/-- Connect or create the row of a relation whose key the new row holds. -/
def addForeign (context : WriteContext) (table : String) (keys : ForeignKeys)
    (entry : Relation × Json) : Compilation ForeignKeys := do
  let (relation, value) := entry
  let path := joinPath table relation.name
  let column := relation.targetColumn
  match ← relationPayload value path with
  | none => return keys
  | some payload =>
    if keys.isSet column then throw (.malformed (joinPath table column) .repeatedForeignKey)
    match payload.get? column with
    | some key =>
      if payload.length > 1 then throw (.malformed path .connectNotAlone)
      return { keys with own := keys.own.insert column key }
    | none =>
      context.validate payload relation.relatedSchema path .full
      let record ← encodedRecord payload relation.relatedSchema path
      return { keys with parents := keys.parents ++ [⟨relation, record⟩] }

/-! ## Rows that refer to the new row -/

/-- The rows in the entry of a relation whose rows refer to the new row, with their paths. -/
def childPayloads (relation : Relation) (value : Json) (path : String) :
    Except QueryError (List (String × Members)) := do
  let payloadAt (path : String) (value : Json) : Except QueryError (Option (String × Members)) :=
    return (← relationPayload value path).map fun row => (path, row)
  match relation.shape with
  | .pluralInverse =>
    let some items := value.items? | throw (.malformed path .pluralNotArray)
    return (← items.zipIdx.mapM fun item => payloadAt (itemPath path item.2) item.1).filterMap id
  | _ => return (← payloadAt path value).toList

/-- A row that refers to the new row. -/
def childRow (context : WriteContext) (relation : Relation) (entry : String × Members) :
    Compilation NewRow := do
  let (path, row) := entry
  if row.contains relation.sourceColumn then
    throw (.malformed (joinPath path relation.sourceColumn) .keySetByParent)
  context.validate row (relation.relatedSchema.withOptional [relation.sourceColumn]) path .full
  return ⟨relation, ← encodedRecord row relation.relatedSchema path⟩

/-- The rows of a relation that refer to the new row. -/
def childRows (context : WriteContext) (table : String) (entry : Relation × Json) :
    Compilation (List NewRow) := do
  let (relation, value) := entry
  (← childPayloads relation value (joinPath table relation.name)).mapM
    (context.childRow relation)

/-! ## Plans -/

/-- The entries of relations in data, in their order. -/
def relationEntries (table : Table) (data : Members) : List (Relation × Json) :=
  data.filterMap fun entry => (table.relation? entry.1).map fun relation => (relation, entry.2)

/-- The entries of columns in data, in their order. -/
def ownEntries (table : Table) (data : Members) : Members :=
  data.filter fun entry => (table.relation? entry.1).isNone

/-- Check the data of an insert.  The columns that are set by references need not be in the data. -/
def insertPlan (context : WriteContext) (table : Table) (data : Members) :
    Compilation InsertPlan := do
  let relations := relationEntries table data
  let keys ← (relations.filter (!·.1.shape.isInverse)).foldlM (context.addForeign table.name)
    ⟨ownEntries table data, []⟩
  context.validate keys.own (table.schema.withOptional keys.linked) table.name .full
  let own ← encodedRecord keys.own table.schema table.name
  let children ← (relations.filter (·.1.shape.isInverse)).mapM (context.childRows table.name)
  return ⟨keys.parents, own, children.flatten⟩

end WriteContext

/-! ## Statements -/

namespace InsertPlan

/-- The name of the statement for the new row. -/
def ownName (plan : InsertPlan) (stem : String) : String := numberedName stem plan.parents.length

/-- The name of the statement for a row that refers to the new row. -/
def childName (plan : InsertPlan) (stem : String) (index : Nat) : String :=
  numberedName stem (plan.parents.length + 1 + index)

/-- The columns of the new row that refer to created rows. -/
def links (plan : InsertPlan) (stem : String) : List (String × Expr) :=
  plan.parents.zipIdx.map fun entry =>
    (entry.1.relation.targetColumn,
      .reference (numberedName stem entry.2) entry.1.relation.sourceColumn)

/-- The new row with its references. -/
def ownRecord (plan : InsertPlan) (stem : String) : Record := plan.own.setAll (plan.links stem)

/-- A row that refers to the new row, with its reference. -/
def childRecord (plan : InsertPlan) (stem : String) (row : NewRow) : Record :=
  row.record.set row.relation.sourceColumn
    (.reference (plan.ownName stem) row.relation.targetColumn)

/-- The statements that created related rows, by relation. -/
def created (plan : InsertPlan) (stem : String) : List CreatedRows :=
  let parents := plan.parents.zipIdx.map fun entry =>
    (entry.1.relation, numberedName stem entry.2)
  let children := plan.children.zipIdx.map fun entry =>
    (entry.1.relation, plan.childName stem entry.2)
  (parents ++ children).foldl (fun created entry => CreatedRows.add created entry.1 entry.2) []

/-- There are no related rows. -/
def isSingle (plan : InsertPlan) : Bool := plan.parents.isEmpty && plan.children.isEmpty

/-- All columns of a statement. -/
def allColumns : List Projection := [.plain (.raw "*")]

/-- The statement for a row that the new row refers to.  Without a selection only the referenced
column is returned. -/
def parentStatement (select? include? : Option Json) (row : NewRow) : Statement :=
  .insert {
    table? := some row.relation.relatedTable
    record? := some row.record
    returning :=
      if isSelected select? include? row.relation.name then allColumns
      else [.column row.relation.sourceColumn] }

/-- The statement for a row that refers to the new row. -/
def childStatement (plan : InsertPlan) (stem : String) (select? include? : Option Json)
    (row : NewRow) : Statement :=
  .insert {
    table? := some row.relation.relatedTable
    record? := some (plan.childRecord stem row)
    returning := if isSelected select? include? row.relation.name then allColumns else [] }

/-- The columns of the new row that later statements read. -/
def returnedColumns (plan : InsertPlan) (table : Table) (select? include? : Option Json) :
    List String :=
  (plan.children.map (·.relation.targetColumn) ++
    if select?.isSome || include?.isSome then requiredColumns select? include? table
    else []).eraseDups

/-- The statement for the new row. -/
def ownStatement (plan : InsertPlan) (stem : String) (table : Table)
    (returning : List Projection) : Statement :=
  .insert ⟨some table.name, some (plan.ownRecord stem), returning⟩

/-- The chain of a plan.  A selection is added if there is more than one row; a single row returns
it itself. -/
def chain (plan : InsertPlan) (context : ProjectionContext) (table : Table)
    (select? include? : Option Json) : Naming Chain := do
  let stem := context.config.chainStem
  let isProjected := select?.isSome || include?.isSome
  if plan.isSingle then
    let returning ←
      if isProjected then context.projections select? include? table.name table.name else pure []
    return ⟨stem, [plan.ownStatement stem table returning]⟩
  let returning := (plan.returnedColumns table select? include?).map Projection.column
  let rows := plan.parents.map (parentStatement select? include?) ++
    plan.ownStatement stem table returning ::
    plan.children.map (plan.childStatement stem select? include?)
  if isProjected then
    let select ←
      createdSelect context table (plan.ownName stem) (plan.created stem) select? include?
    return ⟨stem, rows ++ [.select select]⟩
  return ⟨stem, rows⟩

end InsertPlan

/-- Compile an insert. -/
def WriteContext.insert (context : WriteContext) (table : String) (data : Json)
    (select? include? : Option Json) : Compilation Chain := do
  let info ← context.repository.table table
  let some members := data.members? | throw (.malformed table .insertNotObject)
  let plan ← context.insertPlan info members
  Compilation.naming (plan.chain context.projection info select? include?)

end RelationalQuery
