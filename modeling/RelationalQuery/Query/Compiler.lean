import RelationalQuery.Query.Alteration
import RelationalQuery.Query.Description
import RelationalQuery.Query.Insertion

/-!
# The compiler of queries

Main definitions:

- `Query` is a query of any kind.
- `WriteContext.chain` gives the statements of a query.
- `WriteContext.compile` compiles a query on a table; every compilation starts from fresh aliases.
- `WriteContext.run` gives the result with what the compilation leaves behind.
-/

namespace RelationalQuery

open Sql (Chain Condition Delete Projection Rendered Select)

/-- A query of any kind. -/
inductive Query where
  | insert (query : InsertQuery)
  | update (query : UpdateQuery)
  | select (query : SelectQuery)
  /-- A selection of at most one row. -/
  | findOne (query : SelectQuery)
  | delete (query : DeleteQuery)
  | count (query : CountQuery)

/-- The name of the operation of a query. -/
def Query.operation : Query → String
  | .insert _ => "insert"
  | .update _ => "update"
  | .select _ => "select"
  | .findOne _ => "find_one"
  | .delete _ => "delete"
  | .count _ => "count"

namespace ProjectionContext

/-- The statement of a selection. -/
def select (context : ProjectionContext) (table : String) (query : SelectQuery) :
    Naming Select := do
  let info ← context.repository.table table
  let columns ← context.projections query.select? query.include? table table
  let condition? ← context.conditionOn? query.filter? table (some table)
  let order ← orderTerms? query.order? info (some table) (joinPath table "order")
  return {
    columns := columns, from? := some (.table table none), where? := condition?, order := order,
    limit? := query.take?, offset? := query.skip? }

/-- The statement of a delete.  Without a filter all rows are deleted. -/
def delete (context : ProjectionContext) (table : String) (query : DeleteQuery) :
    Naming Delete := do
  let condition? ← context.conditionOn? query.filter? table none
  let returning ←
    if query.select?.isSome || query.include?.isSome then
      context.projections query.select? query.include? table table
    else pure []
  return ⟨some table, condition?, returning⟩

/-- The statement of a count. -/
def count (context : ProjectionContext) (table : String) (query : CountQuery) :
    Naming Select := do
  let condition? ← context.conditionOn? query.filter? table none
  return { Select.ofColumns [.aliased (.raw "COUNT(1)") "count"] (.table table none) with
    where? := condition? }

end ProjectionContext

namespace WriteContext

/-- Render compiled statements, and note the result. -/
def finish (context : WriteContext) (table operation : String) (statements : Nat)
    (rendered : Rendered) : Compilation CompiledQuery := do
  let tokens ← rendered
  let compiled := CompiledQuery.ofTokens context.config.placeholderStyle tokens
  Compilation.emit (.compiled table operation statements compiled.parameters.length)
  Compilation.emit (.text (cutText context.config.maxLoggedLength? compiled.sql))
  return compiled

/-- The statements of a query on a table; all but inserts and updates have a single one. -/
def chain (context : WriteContext) (table : String) : Query → Compilation Chain
  | .insert query => context.insert table query.data query.select? query.include?
  | .update query => context.update table query.data query.filter? query.select? query.include?
  | .select query => do
    let select ← Compilation.naming (context.projection.select table query)
    return .single context.config.chainStem (.select select)
  | .findOne query => do
    let select ← Compilation.naming (context.projection.select table { query with take? := some 1 })
    return .single context.config.chainStem (.select select)
  | .delete query => do
    let delete ← Compilation.naming (context.projection.delete table query)
    return .single context.config.chainStem (.delete delete)
  | .count query => do
    let select ← Compilation.naming (context.projection.count table query)
    return .single context.config.chainStem (.select select)

/-- Compile a query on a table. -/
def compile (context : WriteContext) (table : String) (query : Query) :
    Compilation CompiledQuery := do
  let chain ← context.chain table query
  context.finish table query.operation chain.statements.length chain.tokens

/-- The result of a query, and what its compilation leaves behind. -/
def run (context : WriteContext) (table : String) (query : Query) :
    Except QueryError CompiledQuery × Progress :=
  context.compile table query Progress.start

end WriteContext

end RelationalQuery
