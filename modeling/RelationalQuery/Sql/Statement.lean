import RelationalQuery.Sql.Rendering
import RelationalQuery.Sql.Record

/-!
# Statements

Main definitions:

- `Insert`, `Update` and `Delete` change rows; `Statement` is one of them or a selection.
- `Statement.tokens` renders a statement.  The rows of earlier statements that written values refer
  to are added to it.
-/

namespace RelationalQuery.Sql

/-! ## Kinds of statements -/

/-- A new row. -/
structure Insert where
  table? : Option String
  record? : Option Record
  returning : List Projection

/-- New values for the rows that fulfil a condition; `from` names earlier statements. -/
structure Update where
  table? : Option String
  assignments : List Assignment
  sources : List String
  where? : Option Condition
  returning : List Projection

/-- The removal of the rows that fulfil a condition. -/
structure Delete where
  table? : Option String
  where? : Option Condition
  returning : List Projection

/-- A statement. -/
inductive Statement where
  | select (select : Select)
  | insert (insert : Insert)
  | update (update : Update)
  | delete (delete : Delete)

/-- The word for the kind of a statement. -/
def Statement.kind : Statement → String
  | .select _ => "select"
  | .insert _ => "insert"
  | .update _ => "update"
  | .delete _ => "delete"

/-! ## Rendering -/

/-- Names with a separator between them. -/
def namesTokens (separator : String) (names : List String) : Rendered := do
  return Token.separated separator (← names.mapM nameTokens)

/-- The earlier statements that are read; without any there is no clause. -/
def sourcesTokens (sources : List String) : Rendered := do
  return Token.clause " FROM " (← sources.mapM nameTokens)

/-- The columns that a statement returns. -/
def returningTokens (columns : List Projection) : Rendered := do
  return Token.clause " RETURNING " (← Projection.listTokens columns)

/-- The columns and values of a new row.  If the values refer to earlier statements, the row is
selected from those. -/
def Record.tokens (record : Record) : Rendered := do
  if record.isEmpty then return [.fixed " DEFAULT VALUES"]
  let columns ← namesTokens "," record.columns
  let values ← Expr.listTokens (record.entries.map (·.2))
  let rows ←
    if record.sources.isEmpty then
      pure (.fixed " VALUES (" :: Token.separated "," values ++ [.fixed ")"])
    else
      pure (.fixed " SELECT " :: Token.separated ", " values ++ (← sourcesTokens record.sources))
  return .fixed " (" :: columns ++ .fixed ")" :: rows

/-- The tokens of an insert. -/
def Insert.tokens (insert : Insert) : Rendered := do
  let some table := insert.table? | throw (.structural .insertWithoutTable)
  let some record := insert.record? | throw (.structural .insertWithoutRecord)
  let tableTokens ← nameTokens table
  let recordTokens ← record.tokens
  return .fixed "INSERT INTO " :: tableTokens ++ recordTokens ++
    (← returningTokens insert.returning)

/-- The tokens of each assignment. -/
def Assignment.tokens (assignment : Assignment) : Rendered := do
  let target ← assignment.target.tokens
  return target ++ .fixed " = " :: (← assignment.value.tokens)

/-- The earlier statements that an update reads, each once: the named ones first. -/
def Update.allSources (update : Update) : List String :=
  (update.sources ++ Assignment.sources update.assignments).eraseDups

/-- The tokens of an update. -/
def Update.tokens (update : Update) : Rendered := do
  let some table := update.table? | throw (.structural .updateWithoutTable)
  if update.assignments.isEmpty then throw (.structural .updateWithoutRecord)
  let tableTokens ← nameTokens table
  let assignments ← update.assignments.mapM Assignment.tokens
  let sources ← sourcesTokens update.allSources
  let condition ← Condition.clauseTokens update.where?
  return .fixed "UPDATE ONLY " :: tableTokens ++
    .fixed " SET " :: Token.separated ", " assignments ++ sources ++ condition ++
    (← returningTokens update.returning)

/-- The tokens of a delete. -/
def Delete.tokens (delete : Delete) : Rendered := do
  let some table := delete.table? | throw (.structural .deleteWithoutTable)
  let tableTokens ← nameTokens table
  let condition ← Condition.clauseTokens delete.where?
  return .fixed "DELETE FROM " :: tableTokens ++ condition ++ (← returningTokens delete.returning)

/-- The tokens of a statement. -/
def Statement.tokens : Statement → Rendered
  | .select s => s.tokens
  | .insert s => s.tokens
  | .update s => s.tokens
  | .delete s => s.tokens

end RelationalQuery.Sql
