import RelationalQuery.Alias
import RelationalQuery.Filter.Predicate
import RelationalQuery.Relation.Join

/-!
# Filters

A filter is an object whose entries all have to hold.  An entry is a group of further filters, a
relation that is tested by a subquery, or a column with its predicates.

Main definitions:

- `FilterContext` holds the tables and the stem of the aliases of subqueries.
- `FilterEntry.ofKey` says what a key stands for in a filter over a table.
- `FilterContext.condition` is the condition of a filter, by recursion on it.
-/

namespace RelationalQuery

open Sql (ColumnRef Condition Expr FromItem Projection Select)

/-- The tables that filters refer to, and the stem of the aliases of their subqueries. -/
structure FilterContext where
  repository : Repository
  stem : String

/-- What a key stands for in a filter over a table. -/
inductive FilterEntry where
  /-- Filters of which all or, for a disjunction, some have to hold. -/
  | group (isDisjunction : Bool)
  | negation
  | relation (relation : Relation)
  | column

/-- What a key stands for: the words of groups come first, then relations, then columns. -/
def FilterEntry.ofKey (table : Table) (key : String) : FilterEntry :=
  if key = "AND" then .group false
  else if key = "OR" then .group true
  else if key = "NOT" then .negation
  else
    match table.relation? key with
    | some r => .relation r
    | none => .column

namespace Sql.Condition

/-- The condition that the entries of a filter hold; a filter without entries always does. -/
def ofEntries (conditions : List Condition) : Condition := (all conditions).getD (.and [])

/-- The conditions of a group: those that all have to hold, or their disjunction. -/
def ofGroup (isDisjunction : Bool) (conditions : List Condition) : List Condition :=
  if isDisjunction then [.or conditions] else conditions

/-- Whether a related row that fulfils a condition exists. -/
def relatedRow (relation : Relation) (inner : String) (condition : Condition) (negated : Bool) :
    Condition :=
  .exists
    ((Select.ofColumns [.plain (.raw "1")] (.aliased relation.relatedTable inner)).restrict
      condition)
    negated

end Sql.Condition

/-- The conditions of a column in a filter over a table. -/
def Table.columnConditions (table : Table) (scope? : Option String) (path key : String)
    (value : Json) : Except QueryError (List Condition) := do
  let field ← table.schema.field key path
  predicates (some field) ⟨scope?, key, []⟩ (joinPath path key) value

namespace FilterContext

mutual

/-- The conditions of the entries of a filter over a table.  Columns are qualified by the scope, if
there is one. -/
def memberConditions (context : FilterContext) (table : Table) (scope? : Option String)
    (path : String) : List (String × Json) → Numbering (List Condition)
  | [] => return []
  | (key, value) :: rest => do
    let first ← context.entryConditions table scope? path key (FilterEntry.ofKey table key) value
    return first ++ (← context.memberConditions table scope? path rest)

/-- The conditions of an entry of a filter. -/
def entryConditions (context : FilterContext) (table : Table) (scope? : Option String)
    (path key : String) : FilterEntry → Json → Numbering (List Condition)
  | .group isDisjunction, .array items => do
    return Condition.ofGroup isDisjunction
      (← context.itemConditions table scope? (joinPath path key) 0 items)
  | .group isDisjunction, .object members => do
    let inner ← context.memberConditions table scope? (itemPath (joinPath path key) 0) members
    return Condition.ofGroup isDisjunction [.ofEntries inner]
  | .group _, _ => throw (.malformed (joinPath path key) .groupNotObjects)
  | .negation, .object members => do
    let inner ← context.memberConditions table scope? (joinPath path key) members
    return [.not (.ofEntries inner)]
  | .negation, _ => throw (.malformed (joinPath path key) .negationNotObject)
  | .relation relation, value => do
    let inner ← Numbering.fresh context.stem
    let related ← context.repository.table relation.relatedTable
    let join := relation.join inner (scope?.getD table.name)
    match value with
    | .null => return [.relatedRow relation inner join true]
    | .object members =>
      let nested ← context.memberConditions related (some inner) (joinPath path key) members
      let condition := match Condition.all nested with
        | some nested => join.andAlso nested
        | none => join
      return [.relatedRow relation inner condition false]
    | _ => throw (.malformed (joinPath path key) .relationFilterNotObject)
  | .column, value => table.columnConditions scope? path key value

/-- The conditions of the filters of a group, each of which is an object; the first one has the
given index. -/
def itemConditions (context : FilterContext) (table : Table) (scope? : Option String)
    (path : String) (index : Nat) : List Json → Numbering (List Condition)
  | [] => return []
  | .object members :: rest => do
    let inner ← context.memberConditions table scope? (itemPath path index) members
    return .ofEntries inner :: (← context.itemConditions table scope? path (index + 1) rest)
  | _ :: _ => throw (.malformed (itemPath path index) .filterNotObject)

end

/-- The condition of a filter over a table; a filter without entries has none. -/
def condition (context : FilterContext) (filter : Json) (table : Table) (scope? : Option String)
    (path : String) : Numbering (Option Condition) := do
  match filter with
  | .object members => return Condition.all (← context.memberConditions table scope? path members)
  | _ => throw (.malformed path .filterNotObject)

/-- The condition of a filter over the table of a given name. -/
def conditionOn (context : FilterContext) (filter : Json) (table : String)
    (scope? : Option String) : Numbering (Option Condition) := do
  context.condition filter (← context.repository.table table) scope? table

end FilterContext

end RelationalQuery
