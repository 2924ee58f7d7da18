import RelationalQuery.Proofs.Projection.NullFree
import RelationalQuery.Proofs.Query.Failure
import RelationalQuery.Proofs.Query.ValidatedWrites
import RelationalQuery.Proofs.Sql.Placeholders

/-!
# Null is never bound

A parameter has no type of its own, and for null there is nothing to take a type from.  So null is
never bound.  In a record it is written as the literal, or as JSON null for a key inside a column,
and in a filter it is a null check or a literal.  The encoding of values, which refuses null, is
never asked for it.

Main definitions:

- `Query.given` are the values that the data of a query gives for places.
- `Place.nullExpr` is what null is written as at a place.

Main results:

- `WriteContext.nullFree_chain`: the chain of a query binds no null.
- `WriteContext.forall_assignments_of_alterationPlan`: where the assignments of a plan come from.
- `WriteContext.null_never_bound`: null is never bound, and never refused except by the validator.
-/

namespace RelationalQuery

open Sql (Assignment Chain Condition Delete Expr FromItem OrderTerm Patch Projection Record Select
  Statement)
open Parameter (NullFree nullFree_append nullFree_flatMap nullFree_nil nullFree_singleton)

/-! ## Written values -/

/-- What holds a value binds it unless it is null. -/
theorem Sql.Expr.Holds.nullFree {expr : Expr} {value : Json} (h : expr.Holds value) :
    NullFree expr.parameters := by
  unfold Sql.Expr.Holds at h
  split at h
  · rcases h with rfl | rfl <;> exact nullFree_nil
  · rename_i hnull
    have hvalue : value ≠ .null := mt Json.isNull_iff.2 hnull
    obtain ⟨hint?, rfl | rfl⟩ := h <;> exact nullFree_singleton.2 hvalue

/-- What stores a value binds no null. -/
theorem Datum.IsStored.nullFree {datum : Datum} {qualifier? : Option String} {expr : Expr}
    (h : datum.IsStored qualifier? expr) : NullFree expr.parameters := by
  unfold Datum.IsStored at h
  split at h
  · obtain ⟨_, _, number, -, -, -, rfl⟩ := h
    exact nullFree_singleton.2 Json.noConfusion
  · exact h.nullFree

namespace Sql

/-- An assignment binds what it writes. -/
theorem Assignment.parameters_eq_flatMap (assignment : Assignment) :
    assignment.value.parameters = assignment.writes.flatMap fun write => write.2.parameters := by
  unfold writes
  split
  · rename_i hvalue
    rw [hvalue, Expr.parameters, Expr.entryParameters_eq_flatMap, List.flatMap_map]
  · rw [List.flatMap_singleton]

/-- Neither do assignments that write values. -/
theorem Assignment.Write.nullFree {assignments : List Assignment} {qualifier? : Option String}
    {data : List Datum} (h : Assignment.Write assignments qualifier? data) :
    NullFree (assignments.flatMap fun assignment => assignment.value.parameters) := by
  rw [nullFree_flatMap]
  intro assignment hassignment
  rw [parameters_eq_flatMap, nullFree_flatMap]
  intro write hwrite
  obtain ⟨_, -, -, hstored⟩ := h.written assignment hassignment write hwrite
  exact hstored.nullFree

/-- Plain columns bind nothing. -/
theorem Projection.listParameters_column (columns : List String) :
    Projection.listParameters (columns.map Projection.column) = [] := by
  rw [Projection.listParameters_eq_flatMap, List.flatMap_eq_nil_iff, List.forall_mem_map]
  exact fun _ _ => rfl

/-- A new row binds its values and what its output columns bind. -/
theorem Statement.nullFree_insert {table : String} {record : Record} {returning : List Projection}
    (values : ∀ entry ∈ record.entries, NullFree entry.2.parameters)
    (returned : NullFree (Projection.listParameters returning)) :
    NullFree (Statement.insert ⟨some table, some record, returning⟩).parameters := by
  refine nullFree_append.2 ⟨?_, returned⟩
  rw [Option.toList_some, List.flatMap_singleton, Record.parameters,
    Expr.entryParameters_eq_flatMap]
  exact nullFree_flatMap.2 values

/-- A selection of columns from a table binds what its columns bind. -/
theorem Select.parameters_ofTable (columns : List Projection) (table : String) :
    (Select.ofColumns columns (.table table none)).parameters =
      Projection.listParameters columns := by
  simp [Select.ofColumns, Select.parameters, FromItem.clauseParameters, FromItem.parameters,
    Condition.clauseParameters, OrderTerm.listParameters, countParameters]

end Sql

/-- Neither does a record whose values passed the validator. -/
theorem nullFree_of_isPassed {validator : Validator} {schema : ObjectSchema}
    {links : List String} {calls : List ValidationCall} {record : Record}
    (h : record.IsPassed validator schema links calls) :
    ∀ entry ∈ record.entries, NullFree entry.2.parameters := by
  intro entry hentry
  obtain ⟨_, -, -, hholds⟩ := h entry hentry
  exact hholds.nullFree

/-! ## Inserts -/

section

variable {context : ProjectionContext} {a b : Aliases}

/-- The subquery over created rows binds no null. -/
theorem CreatedRows.nullFree_expr {created : CreatedRows} {selection? included? : Option Json}
    {path : String} {value : Expr}
    (compiled : Returns (created.expr context selection? included? path) a value b) :
    NullFree value.parameters := by
  obtain ⟨related, object, condition?, order, _, _, _, -, derives, filter, ordered, rfl⟩ :=
    expr_eq_of_returns compiled
  rw [Expr.parameters]
  refine nullFree_relatedSelect ?_ ?_ ?_ filter.nullFree
  · unfold rows
    split <;> rfl
  · rcases ordered with rfl | ordered
    · rfl
    · exact parameters_orderTerms ordered
  · rw [Expr.parameters, Expr.entryParameters_eq_flatMap]
    exact nullFree_flatMap.2 derives.nullFree

/-- The selection after an insert binds no null. -/
theorem nullFree_createdSelect {table : Table} {parent : String} {created : List CreatedRows}
    {select? include? : Option Json} {select : Select}
    (compiled : Returns (createdSelect context table parent created select? include?) a select b) :
    NullFree select.parameters := by
  simp only [createdSelect, returns_bind, returns_pure] at compiled
  obtain ⟨columns, _, hcolumns, relations, _, hrelations, rfl, rfl⟩ := compiled
  rw [Select.parameters_ofTable, Projection.listParameters_eq_flatMap, List.flatMap_append,
    ← Projection.listParameters_eq_flatMap]
  refine nullFree_append.2 ⟨ProjectionContext.nullFree_projections hcolumns, ?_⟩
  refine nullFree_flatMap.2 (forall_of_returns_mapM hrelations ?_)
  intro rows _ s column t hcolumn
  simp only [returns_bind, returns_pure] at hcolumn
  obtain ⟨value, _, hvalue, rfl, rfl⟩ := hcolumn
  exact CreatedRows.nullFree_expr hvalue

namespace InsertPlan

variable {plan : InsertPlan} {table : Table} {select? include? : Option Json}

/-- The chain of a plan whose records bind no null binds none. -/
theorem nullFree_chain {chain : Chain}
    (parents : ∀ row ∈ plan.parents, ∀ entry ∈ row.record.entries, NullFree entry.2.parameters)
    (own : ∀ entry ∈ plan.own.entries, NullFree entry.2.parameters)
    (children : ∀ row ∈ plan.children, ∀ entry ∈ row.record.entries, NullFree entry.2.parameters)
    (compiled : Returns (plan.chain context table select? include?) a chain b) :
    ∀ statement ∈ chain.statements, NullFree statement.parameters := by
  obtain ⟨returning, selections, rfl, hreturning, hselected⟩ := chain_cases compiled
  have hall : ∀ selected : Bool, ∀ columns : List Projection,
      NullFree (Projection.listParameters columns) →
        NullFree (Projection.listParameters (if selected then allColumns else columns)) := by
    intro selected columns hcolumns
    cases selected with
    | true => exact nullFree_nil
    | false => exact hcolumns
  rw [List.append_assoc, List.forall_mem_append, List.cons_append, List.forall_mem_cons,
    List.forall_mem_append, List.forall_mem_map, List.forall_mem_map]
  refine ⟨fun row hrow => ?_, ?_, fun row hrow => ?_, ?_⟩
  · exact Statement.nullFree_insert (parents row hrow) (hall _ _ nullFree_nil)
  · refine Statement.nullFree_insert (fun entry hentry => ?_) ?_
    · rcases Record.mem_setAll hentry with hlink | hown
      · obtain ⟨_, -, rfl⟩ := List.mem_map.1 hlink
        exact nullFree_nil
      · exact own entry hown
    · unfold Returning at hreturning
      split at hreturning
      · obtain ⟨_, _, hreturning⟩ := hreturning
        exact ProjectionContext.nullFree_projections hreturning
      · rw [hreturning, Projection.listParameters_column]
        exact nullFree_nil
  · refine Statement.nullFree_insert (fun entry hentry => ?_) (hall _ _ nullFree_nil)
    rcases Record.mem_set hentry with rfl | hrecord
    · exact nullFree_nil
    · exact children row hrow entry hrecord
  · split at hselected
    · obtain ⟨select, _, _, hselect, rfl⟩ := hselected
      exact List.forall_mem_singleton.2 (nullFree_createdSelect hselect)
    · rw [hselected]
      exact List.forall_mem_nil _

end InsertPlan

end

/-! ## Updates -/

namespace AlterationPlan

variable {plan : AlterationPlan} {context : ProjectionContext} {table : Table}
  {filter? select? include? : Option Json} {s t : Progress}

/-- The chain of a plan whose assignments bind no null binds none. -/
theorem nullFree_chain {chain : Chain}
    (own : NullFree (plan.own.flatMap fun assignment => assignment.value.parameters))
    (steps : ∀ step ∈ plan.steps,
      NullFree (step.assignments.flatMap fun assignment => assignment.value.parameters))
    (compiled : Returns (plan.chain context table filter? select? include?) s chain t) :
    ∀ statement ∈ chain.statements, NullFree statement.parameters := by
  obtain ⟨condition?, _, returning, _, _, hcondition, hreturning, -, hchainOf⟩ :=
    chain_steps compiled
  obtain ⟨selections, rfl, hselected⟩ := chainOf_cases hchainOf
  replace hcondition := ProjectionContext.nullFree_conditionOn? hcondition
  have hreturned : NullFree (Projection.listParameters returning) := by
    rcases returning_cases hreturning with ⟨-, rfl⟩ | ⟨-, -, hcolumns⟩ | ⟨-, -, rfl⟩
    · rw [Projection.listParameters_column]
      exact nullFree_nil
    · exact ProjectionContext.nullFree_projections hcolumns
    · exact nullFree_nil
  rw [List.forall_mem_append, List.forall_mem_cons, List.forall_mem_map]
  refine ⟨⟨?_, fun step hstep => ?_⟩, ?_⟩
  · unfold ownStatement
    split
    · simp only [Statement.parameters, Select.ofColumns, Select.parameters,
        FromItem.clauseParameters, FromItem.parameters, OrderTerm.listParameters,
        Sql.countParameters, Option.toList_none, List.map_nil, List.append_nil]
      refine nullFree_append.2 ⟨?_, hcondition⟩
      split
      · exact nullFree_nil
      · exact hreturned
    · exact nullFree_append.2 ⟨nullFree_append.2 ⟨own, hcondition⟩, hreturned⟩
  · exact nullFree_append.2 ⟨nullFree_append.2 ⟨steps step hstep, nullFree_nil⟩, nullFree_nil⟩
  · split at hselected
    · obtain ⟨columns, _, _, hcolumns, rfl⟩ := hselected
      rw [List.forall_mem_singleton, Statement.parameters, Select.parameters_ofTable]
      exact ProjectionContext.nullFree_projections hcolumns
    · rw [hselected]
      exact List.forall_mem_nil _

end AlterationPlan

/-! ## Chains -/

namespace ProjectionContext

variable {context : ProjectionContext} {table : String} {a b : Aliases}

/-- Neither does a selection. -/
theorem nullFree_select {query : SelectQuery} {select : Select}
    (compiled : Returns (context.select table query) a select b) : NullFree select.parameters := by
  obtain ⟨info, columns, condition?, order, _, -, hcolumns, hcondition, horder, rfl⟩ :=
    select_cases compiled
  simp only [Select.parameters, FromItem.clauseParameters, FromItem.parameters, List.append_nil,
    parameters_orderTerms horder, nullFree_append]
  exact ⟨⟨⟨nullFree_projections hcolumns, nullFree_conditionOn? hcondition⟩,
    nullFree_countParameters _⟩, nullFree_countParameters _⟩

/-- Neither does a delete. -/
theorem nullFree_delete {query : DeleteQuery} {delete : Delete}
    (compiled : Returns (context.delete table query) a delete b) : NullFree delete.parameters := by
  obtain ⟨condition?, returning, _, hcondition, hreturning, rfl⟩ := delete_cases compiled
  refine nullFree_append.2 ⟨nullFree_conditionOn? hcondition, ?_⟩
  split at hreturning
  · exact nullFree_projections hreturning
  · rw [hreturning]
    exact nullFree_nil

/-- Neither does a count. -/
theorem nullFree_count {query : CountQuery} {select : Select}
    (compiled : Returns (context.count table query) a select b) : NullFree select.parameters := by
  obtain ⟨condition?, hcondition, rfl⟩ := count_cases compiled
  simp only [Select.ofColumns, Select.parameters, Sql.Projection.listParameters,
    Sql.Projection.aliased, Expr.parameters, FromItem.clauseParameters, FromItem.parameters,
    OrderTerm.listParameters, Sql.countParameters, Option.toList_none, List.map_nil,
    List.append_nil, List.nil_append]
  exact nullFree_conditionOn? hcondition

end ProjectionContext

namespace WriteContext

variable {context : WriteContext} {table : String} {chain : Chain} {s t : Progress}

/-- The chain of a query binds no null. -/
theorem nullFree_chain {query : Query}
    (compiled : Returns (context.chain table query) s chain t) : NullFree chain.parameters := by
  refine nullFree_flatMap.2 ?_
  cases query with
  | insert query =>
    obtain ⟨info, members, plan, _, _, _, -, -, hplan, hchain⟩ := plan_of_insert compiled
    obtain ⟨_, -, hparents, hown, hchildren⟩ := insertPlan_passes hplan
    refine InsertPlan.nullFree_chain (fun row hrow => ?_) (nullFree_of_isPassed hown)
      (fun row hrow => ?_) hchain
    · exact nullFree_of_isPassed (hparents row hrow).2
    · exact nullFree_of_isPassed (hchildren row hrow).2
  | update query =>
    obtain ⟨info, members, plan, _, -, -, hplan, hchain⟩ := plan_of_update compiled
    obtain ⟨hown, hsteps, -⟩ := alterationPlan_writes hplan
    refine AlterationPlan.nullFree_chain hown.nullFree (fun step hstep => ?_) hchain
    obtain ⟨_, -, hwrites⟩ := exists_mem_of_forall₂ hsteps hstep
    exact hwrites.write.nullFree
  | select query | findOne query =>
    obtain ⟨select, _, _, hselect, rfl⟩ := single_cases compiled
    exact List.forall_mem_singleton.2 (ProjectionContext.nullFree_select hselect)
  | delete query =>
    obtain ⟨delete, _, _, hdelete, rfl⟩ := single_cases compiled
    exact List.forall_mem_singleton.2 (ProjectionContext.nullFree_delete hdelete)
  | count query =>
    obtain ⟨select, _, _, hselect, rfl⟩ := single_cases compiled
    exact List.forall_mem_singleton.2 (ProjectionContext.nullFree_count hselect)

/-- A compiled query binds the parameters of its chain. -/
theorem chain_of_compile {query : Query} {compiled : CompiledQuery}
    (h : Returns (context.compile table query) s compiled t) :
    ∃ chain r, Returns (context.chain table query) s chain r ∧
      compiled.parameters = chain.parameters := by
  obtain ⟨chain, tokens, r, hchain, htokens, rfl⟩ := compile_cases h
  refine ⟨chain, r, hchain, ?_⟩
  rw [CompiledQuery.ofTokens, Sql.RenderContext.writeAll_eq,
    ← Sql.Chain.parameters_of_tokens htokens]
  rfl

end WriteContext

/-! ## Places of null -/

/-- What null is written as at a place: the literal, and JSON null for a key inside a column. -/
def Place.nullExpr (place : Place) : Expr :=
  match place.key? with
  | none => .null
  | some _ => Patch.jsonNull

/-- An assignment writes each of the two forms of null only at the places that it is for. -/
def Sql.Assignment.PlacesNull (assignment : Assignment) : Prop :=
  ∀ write ∈ assignment.writes, write.2 = .null ∨ write.2 = Patch.jsonNull →
    write.2 = write.1.nullExpr

namespace Sql

/-- A literal value of a whole column is the literal null or no null. -/
theorem Assignment.placesNull_column {column : String} {value : Expr} (literal : value.IsLiteral) :
    (Assignment.column column value).PlacesNull := by
  intro write hwrite hnull
  rcases literal with rfl | ⟨parameter, rfl⟩
  · rw [List.mem_singleton.1 hwrite]
    rfl
  · rw [List.mem_singleton.1 hwrite] at hnull
    rcases hnull with hnull | hnull <;> cases hnull

/-- What a patch stores is never the literal null, in whichever form the patch is written. -/
theorem Patch.placesNull_assignments {patch : Patch} {nested : ObjectSchema}
    (stored : ∀ entry ∈ patch.entries, entry.2 ≠ .null) :
    ∀ assignment ∈ patch.assignments nested, assignment.PlacesNull := by
  unfold assignments
  split
  · rw [subscriptAssignments, List.forall_mem_map]
    intro entry hentry write hwrite hnull
    rw [List.mem_singleton.1 hwrite] at hnull ⊢
    exact hnull.resolve_left (stored entry hentry)
  · rw [List.forall_mem_singleton]
    intro write hwrite hnull
    obtain ⟨_, hmerged, rfl⟩ := List.mem_map.1 hwrite
    obtain ⟨entry, hentry, rfl⟩ := List.mem_map.1 hmerged
    refine hnull.resolve_left fun hmergedNull => stored entry hentry ?_
    simp only [merged] at hmergedNull
    split at hmergedNull
    · cases hmergedNull
    · exact hmergedNull

/-- Inside a column null is stored as a value of JSON. -/
theorem Patch.stored_ne_null (expr : Expr) : Patch.stored expr ≠ .null := by
  unfold stored
  split
  · exact Expr.noConfusion
  · rename_i hvalue
    exact hvalue

end Sql

namespace WriteContext

variable {context : WriteContext} {table : Table} {data : Members} {plan : AlterationPlan}
  {s t : Progress}

/-- The assignments of an entry write null in the form that is for its place. -/
theorem fieldAssignments_placesNull {schema : ObjectSchema} {path : String}
    {qualifier? : Option String} {entry : String × Json} {assignments : List Assignment}
    (h : Returns (context.fieldAssignments schema path qualifier? entry) s assignments t) :
    ∀ assignment ∈ assignments, assignment.PlacesNull := by
  obtain ⟨field, -, ⟨members, expr, -, -, hexpr, rfl⟩ | ⟨nested, members, -, -, hpatch⟩ |
    ⟨expr, -, -, -, hexpr, rfl⟩⟩ := fieldAssignments_cases h
  · simp only [operationExpr, bind_eq_ok_iff, pure_eq_ok_iff] at hexpr
    obtain ⟨⟨operator, operand⟩, -, rfl⟩ := hexpr
    rw [List.forall_mem_singleton]
    intro write hwrite hnull
    rw [List.mem_singleton.1 hwrite] at hnull
    rcases hnull with hnull | hnull <;> cases hnull
  · obtain ⟨entries, _, -, -, rfl, rfl⟩ := patchAssignments_cases hpatch
    split
    · exact List.forall_mem_nil _
    · refine Patch.placesNull_assignments (List.forall_mem_map.2 ?_)
      exact fun entry _ => Patch.stored_ne_null entry.2
  · rw [List.forall_mem_singleton]
    exact Assignment.placesNull_column (fieldExpr_isLiteral hexpr)

/-- The assignments of a plan are those of the entries of columns and those of keys. -/
theorem forall_assignments_of_alterationPlan {P : Assignment → Prop}
    (entries : ∀ {schema path qualifier? entry s assignments t},
      Returns (context.fieldAssignments schema path qualifier? entry) s assignments t →
        ∀ assignment ∈ assignments, P assignment)
    (keys : ∀ {column key field expr}, fieldExpr key field = .ok expr → P (.column column expr))
    (h : Returns (context.alterationPlan table data) s plan t) :
    (∀ assignment ∈ plan.own, P assignment) ∧
      ∀ step ∈ plan.steps, ∀ assignment ∈ step.assignments, P assignment := by
  have hassign : ∀ {plan : AlterationPlan} {assignments : List Assignment},
      (∀ assignment ∈ assignments, P assignment) → (∀ assignment ∈ plan.own, P assignment) →
        ∀ assignment ∈ (plan.assign assignments).own, P assignment := by
    intro plan assignments hadded hown
    rw [AlterationPlan.assign, List.forall_mem_append]
    exact ⟨hown, hadded⟩
  have hchange : ∀ {plan : AlterationPlan} {relation : Relation} {assignments : List Assignment},
      (∀ assignment ∈ assignments, P assignment) →
        (∀ assignment ∈ plan.own, P assignment) ∧
          (∀ step ∈ plan.steps, ∀ assignment ∈ step.assignments, P assignment) →
        (∀ assignment ∈ (plan.change relation assignments).own, P assignment) ∧
          ∀ step ∈ (plan.change relation assignments).steps,
            ∀ assignment ∈ step.assignments, P assignment := by
    intro plan relation assignments hadded hplan
    unfold AlterationPlan.change
    split
    · exact hplan
    · rw [List.forall_mem_append, List.forall_mem_singleton]
      exact ⟨hplan.1, hplan.2, hadded⟩
  simp only [alterationPlan, returns_bind] at h
  obtain ⟨own, _, hown, hsteps⟩ := h
  refine returns_foldlM_induction hsteps (P := fun plan => (∀ assignment ∈ plan.own, P assignment) ∧
    ∀ step ∈ plan.steps, ∀ assignment ∈ step.assignments, P assignment) ?_ ?_
  · refine ⟨hassign ?_ (List.forall_mem_nil _), List.forall_mem_nil _⟩
    exact forall_flatten_of_returns_mapM hown fun _ _ _ _ _ => entries
  · intro relation _ _ _ _ _ hplan hstep
    rcases addRelation_cases hstep with ⟨-, rfl, -⟩ |
      ⟨payload, -, ⟨key, -, hconnect⟩ | ⟨-, assignments, hassignments, rfl⟩⟩
    · exact hplan
    · rcases connect_cases hconnect with ⟨-, field, expr, -, -, hexpr, rfl⟩ |
        ⟨-, field, expr, -, -, hexpr, rfl⟩
      · exact hchange (List.forall_mem_singleton.2 (keys hexpr)) hplan
      · exact ⟨hassign (List.forall_mem_singleton.2 (keys hexpr)) hplan.1, hplan.2⟩
    · exact hchange (forall_flatten_of_returns_mapM hassignments fun _ _ _ _ _ => entries) hplan

end WriteContext

/-- The null of a datum is written at its place in the form that is for the place. -/
theorem Sql.Assignment.Write.null {assignments : List Assignment} {qualifier? : Option String}
    {data : List Datum} (h : Assignment.Write assignments qualifier? data)
    (places : ∀ assignment ∈ assignments, assignment.PlacesNull) {datum : Datum}
    (mem : datum ∈ data) (null : datum.value = .null) :
    (datum.place, datum.place.nullExpr) ∈ assignments.flatMap Assignment.writes := by
  obtain ⟨⟨place, expr⟩, hwrite, hplace, hstored⟩ := exists_mem_of_forall₂ h.each.flip mem
  obtain rfl : place = datum.place := hplace
  have hoperation : datum.operation? = none := by
    unfold Datum.operation?
    split
    · rfl
    · rw [null]
      cases datum.field? <;> rfl
  have hholds : expr.Holds .null := by
    rw [Datum.IsStored, hoperation, null] at hstored
    exact hstored
  obtain ⟨assignment, hassignment, hmem⟩ := List.mem_flatMap.1 hwrite
  have hexpr : expr = datum.place.nullExpr := places assignment hassignment _ hmem hholds
  rw [← hexpr]
  exact hwrite

/-- The null of a member of a new row is written as the literal to its column. -/
theorem Sql.Statement.InsertsRow.null {table key : String} {schema : ObjectSchema} {row : Members}
    {links : List (String × Expr)} {statement : Statement}
    (h : statement.InsertsRow table schema row links) (mem : (key, Json.null) ∈ row) :
    (⟨key, none⟩, Expr.null) ∈ statement.writes := by
  obtain ⟨hencoded, -⟩ := h
  rename_i entries _
  obtain ⟨⟨column, expr⟩, hentry, hcolumn, field, -, hvalue⟩ :=
    exists_mem_of_forall₂ hencoded.flip mem
  obtain rfl : column = key := hcolumn
  obtain rfl : expr = .null := hvalue
  exact List.mem_map.2 ⟨_, List.mem_append_left _ hentry, rfl⟩

/-! ## Data of queries -/

/-- The values that the data of a query gives for places, for one statement after the other that
writes them. -/
def Query.given (table : Table) : Query → List (List (Place × Json))
  | .insert query =>
    let data := Json.membersOf (some query.data)
    let rows := (table.parentRows data).map (·.members) ++ table.ownRow data ::
      (table.childRows data).map (·.members)
    rows.map fun row => row.map fun member => (⟨member.1, none⟩, member.2)
  | .update query =>
    let data := Json.membersOf (some query.data)
    let rows := table.ownData data ::
      (table.relations.filter (·.changesRows data)).map (·.relatedData data)
    rows.map fun row => row.map fun datum => (datum.place, datum.value)
  | .select _ | .findOne _ | .delete _ | .count _ => []

/-- A statement writes every null of given values in the form that is for its place. -/
def Sql.Statement.WritesNulls (given : List (Place × Json)) (statement : Statement) : Prop :=
  ∀ place, (place, Json.null) ∈ given → (place, place.nullExpr) ∈ statement.writes

namespace WriteContext

variable {context : WriteContext} {table : String} {chain : Chain} {info : Table} {s t : Progress}

/-- The statements of an insert write the nulls of its data. -/
theorem insert_writesNulls {query : InsertQuery} (known : context.repository.table? table = some info)
    (distinct : query.data.hasDistinctNames = true)
    (compiled : Returns (context.insert table query.data query.select? query.include?) s chain t) :
    List.Forall₂ Statement.WritesNulls ((Query.insert query).given info)
      (chain.statements.take ((Query.insert query).given info).length) := by
  obtain ⟨found, data, plan, _, _, _, hfound, hdata, hplan, hchain⟩ := plan_of_insert compiled
  obtain rfl : info = found := Option.some.inj (known.symm.trans hfound)
  rw [hdata] at distinct
  obtain ⟨parents, own, children, selections, -, hstatements, hparts, -⟩ :=
    InsertPlan.parts_of_chain (insertPlan_describes distinct hplan) hchain
  have hrow : ∀ {name : String} {schema : ObjectSchema} {row : Members}
      {links : List (String × Expr)} {statement : Statement},
      statement.InsertsRow name schema row links →
        statement.WritesNulls (row.map fun member => (⟨member.1, none⟩, member.2)) := by
    intro name schema row links statement h place hplace
    obtain ⟨⟨key, value⟩, hmember, hsame⟩ := List.mem_map.1 hplace
    obtain ⟨rfl, rfl⟩ := Prod.mk.inj hsame
    exact h.null hmember
  have hwrites : List.Forall₂ Statement.WritesNulls ((Query.insert query).given info)
      (parents ++ own :: children) := by
    simp only [Query.given, hdata, Json.membersOf, List.forall₂_map_left_iff]
    refine List.rel_append ?_ (.cons (hrow hparts.new) ?_)
    · rw [List.forall₂_map_left_iff]
      exact hparts.before.imp fun _ _ => hrow
    · rw [List.forall₂_map_left_iff]
      exact hparts.after.imp fun _ _ => hrow
  rw [hstatements, hwrites.length_eq, List.append_assoc, List.cons_append, ← List.cons_append,
    ← List.append_assoc, List.take_left']
  · exact hwrites
  · rfl

/-- So do those of an update. -/
theorem update_writesNulls {query : UpdateQuery} (known : context.repository.table? table = some info)
    (compiled : Returns (context.update table query.data query.filter? query.select?
      query.include?) s chain t) :
    List.Forall₂ Statement.WritesNulls ((Query.update query).given info)
      (chain.statements.take ((Query.update query).given info).length) := by
  obtain ⟨found, data, plan, _, hfound, hdata, hplan, hchain⟩ := plan_of_update compiled
  obtain rfl : info = found := Option.some.inj (known.symm.trans hfound)
  obtain ⟨hown, hsteps, -⟩ := alterationPlan_writes hplan
  obtain ⟨hownPlaces, hstepPlaces⟩ := forall_assignments_of_alterationPlan
    (P := Assignment.PlacesNull) fieldAssignments_placesNull
    (fun hexpr => Assignment.placesNull_column (fieldExpr_isLiteral hexpr)) hplan
  obtain ⟨condition?, returning, selections, rfl, -⟩ := AlterationPlan.chain_cases hchain
  have hdatum : ∀ {assignments : List Assignment} {qualifier? : Option String}
      {values : List Datum} {statement : Statement},
      Assignment.Write assignments qualifier? values →
        (∀ assignment ∈ assignments, assignment.PlacesNull) →
        assignments.flatMap Assignment.writes ⊆ statement.writes →
          statement.WritesNulls (values.map fun datum => (datum.place, datum.value)) := by
    intro assignments qualifier? values statement hwrite hplaces hincluded place hplace
    obtain ⟨datum, hmem, hsame⟩ := List.mem_map.1 hplace
    obtain ⟨rfl, hvalue⟩ := Prod.mk.inj hsame
    exact hincluded (hwrite.null hplaces hmem hvalue)
  have hwrites : List.Forall₂ Statement.WritesNulls ((Query.update query).given info)
      (plan.ownStatement info.name condition? returning ::
        plan.steps.map (AlterationPlan.stepStatement
          (numberedName context.projection.config.chainStem 0))) := by
    simp only [Query.given, hdata, Json.membersOf, List.forall₂_map_left_iff]
    refine .cons (hdatum hown hownPlaces ?_) ?_
    · unfold AlterationPlan.ownStatement
      split
      · rename_i hempty
        rw [List.isEmpty_iff.1 hempty]
        exact List.nil_subset _
      · exact List.Subset.refl _
    · rw [List.forall₂_map_left_iff, List.forall₂_map_right_iff]
      refine List.Forall₂.flip (.imp ?_ ((List.forall₂_and_left _ _).2 ⟨hstepPlaces, hsteps.flip⟩))
      rintro step relation ⟨hplaces, hstep⟩
      exact hdatum hstep.write hplaces (List.Subset.refl _)
  rw [hwrites.length_eq, List.take_left']
  · exact hwrites
  · rfl

/-- The nulls in the data of a query are written where they belong, statement by statement. -/
theorem chain_writesNulls {query : Query} (known : context.repository.table? table = some info)
    (distinct : ∀ insert, query = .insert insert → insert.data.hasDistinctNames = true)
    (compiled : Returns (context.chain table query) s chain t) :
    List.Forall₂ Statement.WritesNulls (query.given info)
      (chain.statements.take (query.given info).length) := by
  cases query with
  | insert query => exact insert_writesNulls known (distinct query rfl) compiled
  | update query => exact update_writesNulls known compiled
  | select query | findOne query | delete query | count query => exact .nil

/-- Null is never bound.  A compiled query has no null among its parameters, and the encoding of
values, which refuses null, is never the reason why a query fails: where a value is reported as
unsupported, the validator refused the last checked record with this error.  The nulls of the data
are written as literals, or as JSON null for keys inside columns, and in a filter a null operand
becomes a null check or the literal, at whatever depth it stands. -/
theorem null_never_bound (context : WriteContext) (table : String) (query : Query) :
    (∀ compiled next, context.run table query = (.ok compiled, next) →
      NullFree compiled.parameters) ∧
    (∀ cause next, context.run table query = (.error (.unsupportedValue cause), next) →
      ∃ call, next.calls.getLast? = some call ∧
        context.validator call.record call.schema call.path call.mode =
          .error (.unsupportedValue cause)) ∧
    (∀ info chain next, context.repository.table? table = some info →
      (∀ insert, query = .insert insert → insert.data.hasDistinctNames = true) →
      Returns (context.chain table query) Progress.start chain next →
      List.Forall₂ Statement.WritesNulls (query.given info)
        (chain.statements.take (query.given info).length)) ∧
    (∀ members info scope? path n condition? m,
      Returns (context.projection.filters.condition (.object members) info scope? path) n
        condition? m →
      ∀ owner column value,
        context.repository.HasEntry owner column value info (.members members) →
        ∃ scope?, ∀ test ∈ owner.columnTests scope? column value,
          ∃ condition ∈ condition?, ∃ part, Condition.StandsIn part condition ∧
            test.NullIsLiteral part) ∧
    (∃ cause, Parameter.detect .null = .error (.unsupportedValue cause)) ∧
    ∀ field?, ∃ cause, Parameter.ofValue .null field? = .error (.unsupportedValue cause) := by
  refine ⟨?_, ?_, ?_, ?_, Parameter.ofValue_null none, Parameter.ofValue_null⟩
  · intro compiled next hcompiled
    obtain ⟨chain, _, hchain, hparameters⟩ := chain_of_compile hcompiled
    rw [hparameters]
    exact nullFree_chain hchain
  · intro cause next hfailed
    cases hknown : context.repository.table? table with
    | some info =>
      have hfailure : context.Failure (.unsupportedValue cause) next :=
        failsOnly_compile hknown _ _ next hfailed
      exact hfailure.resolve_left Repository.InputError.not_unsupportedValue
    | none =>
      rcases failsOnly_compile_unknown hknown _ _ next hfailed with hunknown | ⟨_, hstructural⟩
      · cases hunknown
      · cases hstructural
  · exact fun info chain next => chain_writesNulls
  · intro members info scope? path n condition? m compiled owner column value hentry
    obtain ⟨inner?, htests⟩ := FilterContext.tests_of_condition compiled hentry
    refine ⟨inner?, fun test htest => ?_⟩
    obtain ⟨condition, hcondition, part, hpart, htested⟩ := htests test htest
    exact ⟨condition, hcondition, part, hpart, htested.nullIsLiteral⟩

end WriteContext

namespace Library

/-- The insert of a book without a year, with its writer. -/
def undatedBook : Query := .insert ⟨.object newBook, none, none⟩

end Library

namespace WriteContext

/-- The year of the book is written as the literal, and no parameter is null. -/
theorem null_never_bound_library :
    ∃ writer own next, Returns (Library.writes.chain "book" Library.undatedBook) Progress.start
        ⟨"R", [writer, own]⟩ next ∧
      Statement.WritesNulls [(⟨"id", none⟩, Json.ofUInt64 1), (⟨"year", none⟩, .null)] own ∧
      ∃ compiled next, Library.writes.run "book" Library.undatedBook = (.ok compiled, next) ∧
        NullFree compiled.parameters := by
  obtain ⟨hcompiled, -, hwritten, -⟩ :=
    null_never_bound Library.writes "book" Library.undatedBook
  have hdistinct : ∀ insert, Library.undatedBook = .insert insert →
      insert.data.hasDistinctNames = true := by
    intro insert hinsert
    obtain rfl := Query.insert.inj hinsert
    decide
  have hchain : ∃ writer own next, Returns (Library.writes.chain "book" Library.undatedBook)
      Progress.start ⟨"R", [writer, own]⟩ next := ⟨_, _, _, rfl⟩
  obtain ⟨writer, own, next, hchain⟩ := hchain
  have hnulls := hwritten Library.book _ _ rfl hdistinct hchain
  refine ⟨writer, own, next, hchain, ?_, _, _, rfl, hcompiled _ _ rfl⟩
  rcases hnulls with - | ⟨-, - | ⟨hown, -⟩⟩
  exact hown

end WriteContext

end RelationalQuery
