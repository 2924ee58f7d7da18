import RelationalQuery.Config
import RelationalQuery.Filter.Basic
import RelationalQuery.Projection.Column
import RelationalQuery.Projection.Options
import RelationalQuery.Projection.Order

/-!
# Projections

A select tree names the columns and relations of the result, and an include tree adds relations with
options.  Every relation becomes a subquery that is joined to the rows outside of it: one object for
a singular relation, and an array of objects for a plural one.

Main definitions:

- `ProjectionContext` holds the tables and the settings.
- `relatedSelect` is the query over the rows of a relation.
- `ProjectionContext.fields` are the named expressions of two trees, by recursion on both.
- `ProjectionContext.conditionOn?` is the condition of a statement, and
  `ProjectionContext.projections` are its output columns.
-/

namespace RelationalQuery

open Sql (Condition Expr FromItem OrderTerm Projection Select)

/-- The tables that projections refer to, and the settings that name their subqueries. -/
structure ProjectionContext where
  repository : Repository
  config : Config

/-- The context of the filters inside projections. -/
def ProjectionContext.filters (context : ProjectionContext) : FilterContext :=
  ⟨context.repository, context.config.filterStem⟩

/-! ## Queries over related rows -/

/-- The query over the rows of a relation that gives one object, or an array of objects in an order.
With counts the array is taken over a page of the rows. -/
def relatedSelect (isSingular : Bool) (options : IncludeOptions) (object : Expr) (rows : FromItem)
    (condition? : Option Condition) (order : List OrderTerm) : Select :=
  if isSingular then
    { Select.ofColumns [.plain object] rows with where? := condition?, order := order }
  else
    let columns := [Projection.plain (.aggregate object order)]
    if options.isPaginated then
      .ofColumns columns (.subquery
        { Select.ofRows rows with
          where? := condition?, order := order, limit? := options.take?, offset? := options.skip? }
        rows.scope)
    else { Select.ofColumns columns rows with where? := condition? }

/-! ## Include trees -/

/-- Check that an include tree is an object of relations. -/
def checkIncludes (table : Table) (path : String) (include? : Option Json) :
    Except QueryError Unit :=
  match include? with
  | none => .ok ()
  | some (.object members) =>
    members.forM fun entry =>
      if (table.relation? entry.1).isSome then .ok ()
      else .error (.malformed (joinPath path entry.1) .notARelation)
  | some _ => .error (.malformed path .includeNotObject)

/-- The entry of a name in an include tree, unless it is false. -/
def includedAs? (includes : Members) (name : String) : Option Json :=
  (includes.get? name).filter (· != .bool false)

/-- The select tree of a relation in a select tree, unless it is only a flag. -/
def selectTree? (value : Json) : Option Json := if value.isObject then some value else none

/-- Check that the entry of a relation in a select tree is a flag or a select tree. -/
def checkRelationSelection (value : Json) (path : String) : Except QueryError Unit :=
  match value with
  | .bool _ => .ok ()
  | .object _ => .ok ()
  | _ => .error (.malformed path .relationSelectionNotTree)

theorem size_includedAs?_le (includes : Members) (name : String) :
    Json.sizeOrZero (includedAs? includes name) ≤ Json.membersSize includes := by
  have h := Json.size_get?_le includes name
  unfold includedAs?
  cases hv : includes.get? name with
  | none => simp [Json.sizeOrZero]
  | some value =>
    rw [hv] at h
    rw [Option.filter]
    split
    · exact h
    · simp [Json.sizeOrZero]

theorem size_selectTree?_le (value : Json) :
    Json.sizeOrZero (selectTree? value) ≤ value.size := by
  unfold selectTree?
  split <;> simp [Json.sizeOrZero]

theorem size_orElse_le (first? second? : Option Json) :
    Json.sizeOrZero (first? <|> second?) ≤ Json.sizeOrZero first? + Json.sizeOrZero second? := by
  cases first? <;> simp [Json.sizeOrZero]

/-! ## Fields -/

namespace ProjectionContext

mutual

/-- The named expressions of a select and an include tree over the rows of a scope.  Without a
select tree they are all columns of the table. -/
def fields (context : ProjectionContext) (select? include? : Option Json) (table : Table)
    (scope path : String) : Naming (List (String × Expr)) := do
  checkIncludes table path include?
  match select? with
  | none =>
    let included ← context.includedFields (Json.membersOf include?) [] table scope path
    return allColumnFields table scope ++ included
  | some (.object members) =>
    let selected ← context.selectedFields (Json.membersOf include?) members table scope path
    let included ←
      context.includedFields (Json.membersOf include?) (Members.keys members) table scope path
    return selected ++ included
  | some _ => throw (.malformed path .selectNotObject)
termination_by (Json.sizeOrZero select? + Json.sizeOrZero include?, 1)
decreasing_by
  all_goals
    have := Json.membersSize_membersOf_le include?
    simp only [Json.sizeOrZero_none, Json.sizeOrZero_some, Json.size, Prod.lex_def]
    omega

/-- The named expressions of the entries of a select tree. -/
def selectedFields (context : ProjectionContext) (includes : Members) (members : Members)
    (table : Table) (scope path : String) : Naming (List (String × Expr)) :=
  match members with
  | [] => return []
  | (key, value) :: rest => do
    let keyPath := joinPath path key
    let first ← match table.relation? key with
      | some relation =>
        if value = .bool false then pure []
        else
          checkRelationSelection value keyPath
          let expr ← context.relationExpr relation (selectTree? value) (includedAs? includes key)
            scope keyPath
          pure [(key, expr)]
      | none => columnFields table scope path key value
    return first ++ (← context.selectedFields includes rest table scope path)
termination_by (Json.membersSize members + Json.membersSize includes, 0)
decreasing_by
  all_goals
    have := size_includedAs?_le includes key
    have := size_selectTree?_le value
    simp only [Json.membersSize, Prod.lex_def]
    omega

/-- The named expressions of the relations of an include tree, without those that a select tree
names. -/
def includedFields (context : ProjectionContext) (includes : Members) (named : List String)
    (table : Table) (scope path : String) : Naming (List (String × Expr)) :=
  match includes with
  | [] => return []
  | (name, entry) :: rest => do
    let first ←
      if entry = .bool false ∨ named.contains name then pure []
      else
        match table.relation? name with
        | some relation => do
          let expr ← context.relationExpr relation none (some entry) scope (joinPath path name)
          pure [(name, expr)]
        | none => throw (.malformed (joinPath path name) .notARelation)
    return first ++ (← context.includedFields rest named table scope path)
termination_by (Json.membersSize includes, 0)
decreasing_by
  all_goals
    simp only [Json.membersSize, Json.sizeOrZero, Prod.lex_def]
    omega

/-- The subquery for a relation of the rows of an outer scope.  A select tree of its own comes
before the one of the include entry. -/
def relationExpr (context : ProjectionContext) (relation : Relation)
    (selection? included? : Option Json) (outer path : String) : Naming Expr := do
  let related ← context.repository.table relation.relatedTable
  IncludeOptions.check included? path
  let options := IncludeOptions.ofEntry included?
  let inner ← Naming.inProjections (Numbering.fresh context.config.projectionStem)
  let object ← context.fields (selection? <|> (IncludeOptions.ofEntry included?).select?)
    (IncludeOptions.ofEntry included?).include? related inner path
  let condition ← match options.filter? with
    | none => pure (relation.join inner outer)
    | some filter => do
      let extra? ← Naming.inFilters
        (context.filters.condition filter related (some inner) (joinPath path "where"))
      pure (match extra? with
        | none => relation.join inner outer
        | some extra => (relation.join inner outer).andAlso extra)
  let order ← orderTerms? options.order? related (some inner) (joinPath path "order")
  return .subquery (relatedSelect relation.shape.isSingular options (.object object)
    (.aliased relation.relatedTable inner) (some condition) order)
termination_by (Json.sizeOrZero selection? + Json.sizeOrZero included?, 2)
decreasing_by
  have := IncludeOptions.size_le included?
  have := size_orElse_le selection? (IncludeOptions.ofEntry included?).select?
  simp only [Prod.lex_def]
  omega

end

/-! ## Filters and output columns -/

/-- The condition of a filter that may be absent. -/
def conditionOn? (context : ProjectionContext) (filter? : Option Json) (table : String)
    (scope? : Option String) : Naming (Option Condition) :=
  match filter? with
  | none => return none
  | some filter => Naming.inFilters (context.filters.conditionOn filter table scope?)

/-- A named expression as an output column; a column under its own name needs no alias. -/
def outputColumn (field : String × Expr) : Projection :=
  match field.2 with
  | .column ⟨_, name, []⟩ =>
    if name = field.1 then .plain field.2 else .aliased field.2 field.1
  | _ => .aliased field.2 field.1

/-- The output columns of a select and an include tree over the rows of a table. -/
def projections (context : ProjectionContext) (select? include? : Option Json)
    (table scope : String) : Naming (List Projection) := do
  let info ← context.repository.table table
  return (← context.fields select? include? info scope table).map outputColumn

end ProjectionContext

end RelationalQuery
