import RelationalQuery.Query.Writing

/-!
# Reading created rows

The statements of a chain see the tables as they were before it, so rows that the chain creates are
read from the statements that created them.

Main definitions:

- `CreatedRows` are the statements that created the rows of a relation.
- `CreatedRows.expr` is the subquery over these rows.
- `createdSelect` is the selection that reads created relations from their statements.
-/

namespace RelationalQuery

open Sql (Condition Expr FromItem Projection Select)

/-- The statements of a chain that created the rows of a relation. -/
structure CreatedRows where
  relation : Relation
  sources : List String

namespace CreatedRows

/-- Add a statement that created a row of a relation. -/
def add : List CreatedRows → Relation → String → List CreatedRows
  | [], relation, source => [⟨relation, [source]⟩]
  | created :: rest, relation, source =>
    if created.relation.name = relation.name then
      { created with sources := created.sources ++ [source] } :: rest
    else created :: add rest relation source

/-- The rows of all statements under an alias. -/
def rows (created : CreatedRows) (label : String) : FromItem :=
  match created.sources with
  | [source] => .aliased source label
  | sources => .unionAll sources label

/-- The subquery over created rows.  A singular relation has one row, so its order is not read. -/
def expr (created : CreatedRows) (context : ProjectionContext) (selection? included? : Option Json)
    (path : String) : Naming Expr := do
  let relation := created.relation
  let options ← IncludeOptions.parse included? path
  let label ← Naming.inProjections (Numbering.fresh context.config.projectionStem)
  let related ← context.repository.table relation.relatedTable
  let object ← context.fields (selection? <|> options.select?) options.include? related label path
  let condition? ← match options.filter? with
    | none => pure none
    | some filter =>
      Naming.inFilters
        (context.filters.condition filter related (some label) (joinPath path "where"))
  let order ←
    if relation.shape.isSingular then pure []
    else orderTerms? options.order? related (some label) (joinPath path "order")
  return .subquery (relatedSelect relation.shape.isSingular options (.object object)
    (created.rows label) condition? order)

end CreatedRows

/-- A tree without the entries of created relations. -/
def withoutCreated (created : List CreatedRows) (tree? : Option Json) : Option Json :=
  tree?.map fun tree =>
    match tree with
    | .object members =>
      .object (members.filter fun entry => !created.any (·.relation.name == entry.1))
    | other => other

/-- The output columns of the created relations that a tree names. -/
def createdColumns (context : ProjectionContext) (table : Table) (created : List CreatedRows)
    (select? include? : Option Json) : Naming (List Projection) :=
  (created.filter fun rows => isSelected select? include? rows.relation.name).mapM fun rows => do
    let name := rows.relation.name
    let selection? := ((Json.membersOf select?).get? name).bind selectTree?
    let included? := (Json.membersOf include?).get? name
    return .aliased (← rows.expr context selection? included? (joinPath table.name name)) name

/-- The selection from the statement that created the row of a table. -/
def createdSelect (context : ProjectionContext) (table : Table) (parent : String)
    (created : List CreatedRows) (select? include? : Option Json) : Naming Select := do
  let columns ← context.projections (withoutCreated created select?)
    (withoutCreated created include?) table.name parent
  let relations ← createdColumns context table created select? include?
  return .ofColumns (columns ++ relations) (.table parent none)

end RelationalQuery
