import RelationalQuery.Relation.Repository
import RelationalQuery.Schema.Written

/-!
# Table declarations as JSON

Main definitions:

- `TableDefinition.ofJson?` reads the declaration of a table with its schema, indexes and relations.
- `Repository.ofJson` reads an object of declarations by table name and checks them.
-/

namespace RelationalQuery

/-- Read the kind of an index. -/
def IndexKind.ofJson? (value : Json) : Option IndexKind :=
  (value.name? Json.isNull).bind IndexKind.ofTitle?

/-- Read the declaration of an index. -/
def IndexDefinition.ofJson? (value : Json) : Option IndexDefinition := do
  match ← value.record? .openToOthers ["name", "columns", "kind"] with
  | [some name, some columns, some kind] =>
    return ⟨← name.string?, ← columns.strings?, ← IndexKind.ofJson? kind⟩
  | _ => none

/-- The keys of a declared relation, in their order. -/
def RelationDefinition.keys : List String :=
  ["alias", "relatedTable", "sourceColumn", "sourceIndexKind", "targetColumn", "targetIndexKind"]

/-- Read the declaration of a relation. -/
def RelationDefinition.ofJson? (value : Json) : Option RelationDefinition := do
  match ← value.record? .openToOthers RelationDefinition.keys with
  | [some name, some related, some source, some sourceKind, some target, some targetKind] =>
    return ⟨← name.string?, ← related.string?, ← source.string?, ← IndexKind.ofJson? sourceKind,
      ← target.string?, ← IndexKind.ofJson? targetKind⟩
  | _ => none

/-- Read the declaration of a table.  Only the schema has to be there. -/
def TableDefinition.ofJson? (value : Json) : Option TableDefinition := do
  match ← value.record? .openToOthers ["name", "schema", "indexes", "relations"] with
  | [name, some schema, indexes, relations] =>
    return ⟨← Json.stringOr? "" name, ← ObjectSchema.ofJson? schema,
      ← Json.listOr? IndexDefinition.ofJson? indexes,
      ← Json.listOr? RelationDefinition.ofJson? relations⟩
  | _ => none

/-- The declarations of an object by table name, in the order of the names. -/
def TableDefinition.namedOfJson? (value : Json) : Option (List TableDefinition) := do
  let definitions ← (← value.members?).mapM fun entry =>
    (TableDefinition.ofJson? entry.2).map fun definition => { definition with name := entry.1 }
  return definitions.mergeSort fun a b => decide (a.name ≤ b.name)

/-- Read and check the tables of an object by table name. -/
def Repository.ofJson (value : Json) : Except QueryError Repository :=
  match TableDefinition.namedOfJson? value with
  | some definitions => Repository.ofDefinitions definitions
  | none => .error (.malformed "" .tableDefinitions)

end RelationalQuery
