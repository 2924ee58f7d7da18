import RelationalQuery.Schema.Basic

/-!
# Tables and their relations

Declared tables are checked once.  Every relation is resolved to its related table and its shape,
and the result is a read-only repository in the order of table names.

Main definitions:

- `TableDefinition` and `RelationDefinition` are declarations; `Table` and `Relation` are their
  resolved forms.
- `Repository.ofDefinitions` checks declarations; `Repository.table` looks up a table.
- `Relation.linkColumn` is the column that holds the foreign key.
-/

namespace RelationalQuery

/-! ## Declarations -/

/-- A declared index. -/
structure IndexDefinition where
  name : String
  columns : List String
  kind : IndexKind

/-- A declared relation; the target is a column of this table, the source is one of the
related table. -/
structure RelationDefinition where
  name : String
  relatedTable : String
  sourceColumn : String
  sourceIndexKind : IndexKind
  targetColumn : String
  targetIndexKind : IndexKind

/-- A declared table. -/
structure TableDefinition where
  name : String
  schema : ObjectSchema
  indexes : List IndexDefinition
  relations : List RelationDefinition

/-! ## Resolved tables -/

/-- A relation with the schema of its related table and its shape. -/
structure Relation where
  name : String
  relatedTable : String
  relatedSchema : ObjectSchema
  sourceColumn : String
  targetColumn : String
  shape : RelationShape

/-- The column that holds the foreign key, on the side that the shape tells. -/
def Relation.linkColumn (relation : Relation) : String :=
  match relation.shape with
  | .foreignOwned => relation.targetColumn
  | .uniqueInverse => relation.sourceColumn
  | .pluralInverse => relation.sourceColumn

/-- A table with its relations in the order of their declaration. -/
structure Table where
  name : String
  schema : ObjectSchema
  primaryKey? : Option String
  relations : List Relation

namespace Table

/-- The relation with a given name. -/
def relation? (table : Table) (name : String) : Option Relation :=
  table.relations.find? (·.name == name)

/-- The column of the primary key. -/
def primaryKey (table : Table) : Except QueryError String :=
  match table.primaryKey? with
  | some column => .ok column
  | none => .error (.structural (.noPrimaryKey table.name))

end Table

/-- The resolved tables in the order of their names, which are distinct. -/
structure Repository where
  tables : List Table

namespace Repository

/-- The table with a given name. -/
def table? (repository : Repository) (name : String) : Option Table :=
  repository.tables.find? (·.name == name)

/-- The table with a given name, which has to exist. -/
def table (repository : Repository) (name : String) : Except QueryError Table :=
  match repository.table? name with
  | some table => .ok table
  | none => .error (.unknownTable name)

/-- Add a table to a list in the order of names; a table of the same name is replaced. -/
def insertTable : List Table → Table → List Table
  | [], table => [table]
  | other :: rest, table =>
    if table.name < other.name then table :: other :: rest
    else if table.name = other.name then table :: rest
    else other :: insertTable rest table

/-- Add a table; a table of the same name is replaced. -/
def insert (repository : Repository) (table : Table) : Repository :=
  ⟨insertTable repository.tables table⟩

end Repository

/-! ## Checking declarations -/

namespace TableDefinition

/-- The column of the only primary index, if there is one. -/
def primaryKey (definition : TableDefinition) : Except QueryError (Option String) :=
  match definition.indexes.filter (·.kind = .primary) with
  | [] => .ok none
  | [index] =>
    match index.columns with
    | [column] => .ok (some column)
    | _ => .error (.structural (.widePrimaryIndex index.name definition.name))
  | _ => .error (.structural (.severalPrimaryIndexes definition.name))

/-- The last declared table with a given name. -/
def last? (definitions : List TableDefinition) (name : String) : Option TableDefinition :=
  definitions.reverse.find? (·.name == name)

/-- Resolve a declared relation of a table. -/
def resolve (definitions : List TableDefinition) (definition : TableDefinition)
    (declared : RelationDefinition) : Except QueryError Relation := do
  let invalid (cause : RelationFault) : QueryError :=
    .invalidRelation definition.name declared.name cause
  let some related := last? definitions declared.relatedTable
    | throw (invalid (.unknownTable declared.relatedTable))
  let some shape := RelationShape.classify? declared.targetIndexKind declared.sourceIndexKind
    | throw (invalid (.noShape declared.targetIndexKind declared.sourceIndexKind))
  if definition.schema.contains declared.name then throw (invalid .aliasIsColumn)
  if !definition.schema.contains declared.targetColumn then
    throw (invalid (.unknownTarget declared.targetColumn))
  if !related.schema.contains declared.sourceColumn then
    throw (invalid (.unknownSource declared.relatedTable declared.sourceColumn))
  return ⟨declared.name, declared.relatedTable, related.schema, declared.sourceColumn,
    declared.targetColumn, shape⟩

/-- Resolve declared relations one by one; a name that is already taken is refused. -/
def resolveAll (definitions : List TableDefinition) (definition : TableDefinition) :
    List RelationDefinition → List Relation → Except QueryError (List Relation)
  | [], resolved => .ok resolved
  | declared :: rest, resolved => do
    let relation ← resolve definitions definition declared
    if resolved.any (·.name == relation.name) then
      throw (.invalidRelation definition.name declared.name .duplicateAlias)
    resolveAll definitions definition rest (resolved ++ [relation])

/-- Check a declared table and resolve its relations. -/
def toTable (definitions : List TableDefinition) (definition : TableDefinition) :
    Except QueryError Table := do
  if definition.name.isEmpty then throw (.structural .tableWithoutName)
  let primaryKey ← definition.primaryKey
  let relations ← resolveAll definitions definition definition.relations []
  return ⟨definition.name, definition.schema, primaryKey, relations⟩

end TableDefinition

/-- Check declared tables; of tables with one name the last one counts. -/
def Repository.ofDefinitions (definitions : List TableDefinition) : Except QueryError Repository :=
  definitions.foldlM
    (fun repository definition => return repository.insert (← definition.toTable definitions)) ⟨[]⟩

end RelationalQuery
