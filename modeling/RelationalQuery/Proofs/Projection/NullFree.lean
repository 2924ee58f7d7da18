import RelationalQuery.Proofs.Filter.Tests
import RelationalQuery.Proofs.Projection.Column
import RelationalQuery.Proofs.Projection.Derivation
import RelationalQuery.Proofs.Sql.Parameters

/-!
# Filters and projections bind no null

The only values that filters and projections bind are operands and the numbers of pages.  An operand
that is null is a null check or a literal, so no bound parameter is null.  Selected columns and the
keys of an order bind nothing.

Main results:

- `ColumnTest.Compiled.nullFree`: the condition of a test binds no null.
- `FilterContext.Derives.nullFree`: neither do the conditions of a filter.
- `ProjectionContext.Derives.nullFree`: neither do the named expressions of two trees.
-/

namespace RelationalQuery

open Sql (ColumnRef Condition Expr FromItem OrderTerm Select)
open Parameter (NullFree nullFree_append nullFree_flatMap nullFree_nil nullFree_singleton)

/-! ## Parts of queries -/

namespace Sql.Condition

/-- The condition of entries binds what these bind. -/
theorem parameters_ofEntries (conditions : List Condition) :
    (ofEntries conditions).parameters = listParameters conditions := by
  rw [← clauseParameters_all, ofEntries]
  cases all conditions with
  | none => rfl
  | some condition => rfl

/-- So does the condition of a group. -/
theorem listParameters_ofGroup (isDisjunction : Bool) (conditions : List Condition) :
    listParameters (ofGroup isDisjunction conditions) = listParameters conditions := by
  cases isDisjunction with
  | false => rfl
  | true => rw [ofGroup, if_pos rfl, listParameters, listParameters, List.append_nil, parameters]

/-- A condition on related rows binds what the condition inside of it binds. -/
theorem parameters_relatedRow (relation : Relation) (inner : String) (condition : Condition)
    (negated : Bool) :
    (relatedRow relation inner condition negated).parameters = condition.parameters := by
  simp [relatedRow, parameters, Select.restrict, Select.ofColumns, Select.parameters,
    FromItem.clauseParameters, FromItem.aliased, FromItem.parameters, clauseParameters,
    Projection.listParameters, Projection.plain, Expr.parameters, OrderTerm.listParameters, added,
    countParameters]

/-- A join binds nothing by itself. -/
theorem parameters_joinedWith (relation : Relation) (inner other : String)
    (extra? : Option Condition) :
    ((relation.join inner other).joinedWith extra?).parameters = clauseParameters extra? := by
  cases extra? with
  | none => rfl
  | some condition =>
    rw [joinedWith, parameters_andAlso, clauseParameters]
    rfl

end Sql.Condition

/-- A count binds no null. -/
theorem nullFree_countParameters (count? : Option UInt64) :
    NullFree (Sql.countParameters count?) := by
  cases count? with
  | none => exact nullFree_nil
  | some count => exact nullFree_singleton.2 Json.noConfusion

/-- The query over related rows binds no null if its object and its condition do not. -/
theorem nullFree_relatedSelect {isSingular : Bool} {options : IncludeOptions} {object : Expr}
    {rows : FromItem} {condition? : Option Condition} {order : List OrderTerm}
    (flat : rows.parameters = []) (plain : OrderTerm.listParameters order = [])
    (value : NullFree object.parameters)
    (restricted : NullFree (Condition.clauseParameters condition?)) :
    NullFree (relatedSelect isSingular options object rows condition? order).parameters := by
  have hcount := nullFree_countParameters
  have hnone : Sql.countParameters none = [] := rfl
  unfold relatedSelect
  split
  · simp [Select.ofColumns, Select.parameters, Sql.Projection.listParameters, Sql.Projection.plain,
      FromItem.clauseParameters, flat, plain, hnone, nullFree_append, value, restricted]
  · simp only
    split
    · simp [Select.ofColumns, Select.ofRows, Select.parameters, Sql.Projection.listParameters,
        Sql.Projection.plain, FromItem.clauseParameters, FromItem.parameters, Expr.parameters,
        Condition.clauseParameters, OrderTerm.listParameters, flat, plain, hnone, hcount,
        nullFree_append, value, restricted]
    · simp [Select.ofColumns, Select.parameters, Sql.Projection.listParameters,
        Sql.Projection.plain, FromItem.clauseParameters, Expr.parameters,
        OrderTerm.listParameters, flat, plain, hnone, nullFree_append, value, restricted]

/-! ## Columns -/

/-- An operand is bound unless it is null. -/
theorem operandExpr_nullFree {value : Json} {field? : Option Field} {column : ColumnRef}
    {expr : Expr} (h : operandExpr value field? column = .ok expr) : NullFree expr.parameters := by
  obtain ⟨-, rfl⟩ | ⟨hvalue, parameter, rfl, rfl⟩ := operandExpr_cases h
  · exact nullFree_nil
  · exact nullFree_singleton.2 hvalue

theorem parameters_textExpr (column : ColumnRef) : (textExpr column).parameters = [] := by
  unfold textExpr
  split <;> rfl

theorem parameters_missingCondition (column : ColumnRef) (isMissing : Bool) :
    (missingCondition column isMissing).parameters = [] := by
  unfold missingCondition
  split
  · rfl
  · cases isMissing <;> rfl

/-- The condition of a test binds no null. -/
theorem ColumnTest.Compiled.nullFree {test : ColumnTest} {condition : Condition}
    (h : test.Compiled condition) : NullFree condition.parameters := by
  obtain ⟨column, field?, operator, operand⟩ := test
  obtain ⟨path, h⟩ := h
  have bound : ∀ {left : Expr} {parameter : Parameter}, left.parameters = [] →
      parameter.value ≠ .null → NullFree (left.parameters ++ [parameter]) := by
    intro left parameter hleft hvalue
    rw [hleft]
    exact nullFree_singleton.2 hvalue
  cases FilterOperator.compiles_of_condition h with
  | equalNull | notEqualNull | isNull => exact nullFree_nil
  | compare _ _ operand => exact operandExpr_nullFree operand
  | @isIn _ values operands =>
    have hvalues : ∀ value ∈ values, NullFree value.parameters := by
      intro value hvalue
      obtain ⟨item, -, hitem⟩ := exists_mem_of_forall₂ operands hvalue
      exact operandExpr_nullFree hitem
    cases operands with
    | nil => exact nullFree_nil
    | cons =>
      rw [List.forall_mem_cons] at hvalues
      rw [Condition.parameters, Expr.listParameters_eq_flatMap]
      exact nullFree_append.2 ⟨hvalues.1, nullFree_flatMap.2 hvalues.2⟩
  | isBetween lower upper =>
    exact nullFree_append.2 ⟨operandExpr_nullFree lower, operandExpr_nullFree upper⟩
  | isMissing =>
    rw [parameters_missingCondition]
    exact nullFree_nil
  | startsWith | containsText => exact bound (parameters_textExpr column) Json.noConfusion
  | containsItems | containsMembers => exact nullFree_singleton.2 Json.noConfusion

/-- The conditions of an entry bind no null. -/
theorem Table.columnConditions_nullFree {table : Table} {scope? : Option String}
    {path key : String} {value : Json} {conditions : List Condition}
    (h : table.columnConditions scope? path key value = .ok conditions) :
    NullFree (Condition.listParameters conditions) := by
  rw [Condition.listParameters_eq_flatMap, nullFree_flatMap]
  intro condition hcondition
  obtain ⟨test, -, hcompiled⟩ := exists_mem_of_forall₂ (columnConditions_compiled h) hcondition
  exact hcompiled.nullFree

mutual

/-- The output field of the entry of a key binds nothing. -/
theorem parameters_nestedEntry : ∀ {field? : Option Field} {target : ColumnRef}
    {key keyPath : String} {entry : Json} {fields : List (String × Expr)},
      nestedEntry field? target key keyPath entry = .ok fields →
        ∀ field ∈ fields, field.2.parameters = []
  | field?, target, key, keyPath, .bool false, fields, h => by
    rw [nestedEntry, Except.ok.injEq] at h
    rw [← h]
    exact List.forall_mem_nil _
  | field?, target, key, keyPath, .bool true, fields, h => by
    rw [nestedEntry, Except.ok.injEq] at h
    rw [← h, List.forall_mem_singleton, Expr.parameters]
  | some field, target, key, keyPath, .object members, fields, h => by
    rw [nestedEntry] at h
    split at h
    · simp only [bind_eq_ok_iff, pure_eq_ok_iff] at h
      obtain ⟨nested, hnested, rfl⟩ := h
      rw [List.forall_mem_singleton, Expr.parameters, Expr.entryParameters_eq_flatMap,
        List.flatMap_eq_nil_iff]
      exact parameters_nestedFields hnested
    · simp at h
  | none, target, key, keyPath, .object members, fields, h
  | field?, target, key, keyPath, .null, fields, h
  | field?, target, key, keyPath, .number _, fields, h
  | field?, target, key, keyPath, .string _, fields, h
  | field?, target, key, keyPath, .array _, fields, h => by
    simp [nestedEntry] at h

/-- The entries of the object for a select tree bind nothing. -/
theorem parameters_nestedFields : ∀ {field : Field} {base : ColumnRef} {path : String}
    {members : List (String × Json)} {fields : List (String × Expr)},
      nestedFields field base path members = .ok fields →
        ∀ field ∈ fields, field.2.parameters = []
  | field, base, path, [], fields, h => by
    rw [nestedFields, Except.ok.injEq] at h
    rw [← h]
    exact List.forall_mem_nil _
  | field, base, path, (key, value) :: rest, fields, h => by
    simp only [nestedFields, bind_eq_ok_iff, pure_eq_ok_iff] at h
    obtain ⟨child?, -, first, hfirst, others, hothers, rfl⟩ := h
    rw [List.forall_mem_append]
    exact ⟨parameters_nestedEntry hfirst, parameters_nestedFields hothers⟩

end

/-- The fields of a column bind nothing. -/
theorem parameters_columnFields {table : Table} {scope path key : String} {value : Json}
    {fields : List (String × Expr)} (h : columnFields table scope path key value = .ok fields) :
    ∀ field ∈ fields, field.2.parameters = [] := by
  simp only [columnFields, bind_eq_ok_iff] at h
  obtain ⟨_, -, h⟩ := h
  exact parameters_nestedEntry h

/-- The keys of an order bind nothing. -/
theorem parameters_orderTerms {value? : Option Json} {table : Table} {scope? : Option String}
    {path : String} {order : List OrderTerm}
    (h : orderTerms? value? table scope? path = .ok order) :
    OrderTerm.listParameters order = [] := by
  cases value? with
  | none =>
    rw [← Except.ok.inj h]
    rfl
  | some value =>
    simp only [orderTerms?, orderTerms, bind_eq_ok_iff] at h
    obtain ⟨objects, -, h⟩ := h
    rw [OrderTerm.listParameters_eq_flatMap, List.flatMap_eq_nil_iff]
    intro term hterm
    obtain ⟨entry, -, hentry⟩ := exists_mem_of_forall₂ (forall₂_of_mapM_eq_ok h) hterm
    simp only [orderTerm, bind_eq_ok_iff] at hentry
    obtain ⟨_, -, hentry⟩ := hentry
    split at hentry
    · rw [← Except.ok.inj hentry, Expr.parameters]
    · simp at hentry

/-! ## Filters -/

namespace FilterContext

variable {context : FilterContext} {table : Table} {scope? : Option String}

/-- The conditions of a filter bind no null. -/
theorem Derives.nullFree {task : FilterTask} {conditions : List Condition} {n m : Nat}
    (h : context.Derives table scope? task n conditions m) :
    NullFree (Condition.listParameters conditions) := by
  have hsingle : ∀ condition : Condition,
      Condition.listParameters [condition] = condition.parameters := by
    intro condition
    rw [Condition.listParameters, Condition.listParameters, List.append_nil]
  induction h with
  | nil | noItems => exact nullFree_nil
  | cons _ _ ihHead ihTail =>
    rw [Condition.listParameters_eq_flatMap, List.flatMap_append,
      ← Condition.listParameters_eq_flatMap, ← Condition.listParameters_eq_flatMap]
    exact nullFree_append.2 ⟨ihHead, ihTail⟩
  | group _ ih =>
    rw [Condition.listParameters_ofGroup]
    exact ih
  | single _ ih =>
    rw [Condition.listParameters_ofGroup, hsingle, Condition.parameters_ofEntries]
    exact ih
  | negation _ ih =>
    rw [hsingle, Condition.parameters, Condition.parameters_ofEntries]
    exact ih
  | unrelated =>
    rw [hsingle, Condition.parameters_relatedRow]
    exact nullFree_nil
  | related _ _ ih =>
    rw [hsingle, Condition.parameters_relatedRow, Condition.parameters_joinedWith,
      Condition.clauseParameters_all]
    exact ih
  | column predicates => exact Table.columnConditions_nullFree predicates
  | item _ _ ihHead ihTail =>
    rw [Condition.listParameters, Condition.parameters_ofEntries]
    exact nullFree_append.2 ⟨ihHead, ihTail⟩

/-- A compiled filter binds no null. -/
theorem nullFree_condition {filter : Json} {path : String} {condition? : Option Condition}
    {n m : Nat} (compiled : Returns (context.condition filter table scope? path) n condition? m) :
    NullFree (Condition.clauseParameters condition?) := by
  obtain ⟨members, conditions, -, rfl, derives⟩ := derives_of_condition compiled
  rw [Condition.clauseParameters_all]
  exact derives.nullFree

end FilterContext

/-! ## Projections -/

namespace ProjectionContext

variable {context : ProjectionContext} {a b : Aliases}

/-- Neither does the condition on related rows. -/
theorem RelatedFilter.nullFree {related : Table} {inner : String} {filter? : Option Json}
    {n m : Nat} {extra? : Option Condition}
    (h : context.RelatedFilter related inner filter? n extra? m) :
    NullFree (Condition.clauseParameters extra?) := by
  cases filter? with
  | none =>
    obtain ⟨rfl, -⟩ := h
    exact nullFree_nil
  | some filter =>
    obtain ⟨_, hfilter⟩ := h
    exact FilterContext.nullFree_condition hfilter

/-- The named expressions of two trees bind no null. -/
theorem Derives.nullFree {table : Table} {scope : String} {task : ProjectionTask}
    {fields : List (String × Expr)} (h : context.Derives table scope task a fields b) :
    ∀ field ∈ fields, NullFree field.2.parameters := by
  induction h with
  | @all table scope _ _ _ _ _ ih =>
    rw [List.forall_mem_append]
    refine ⟨?_, ih⟩
    rw [allColumnFields, List.forall_mem_map]
    exact fun _ _ => nullFree_nil
  | tree _ _ ihFirst ihSecond | selectedRelation _ _ _ _ ihFirst ihSecond
  | includedRelation _ _ _ _ ihFirst ihSecond =>
    rw [List.forall_mem_append]
    exact ⟨ihFirst, ihSecond⟩
  | nothingSelected | nothingIncluded => exact List.forall_mem_nil _
  | hidden _ _ ih | skipped _ _ ih => exact ih
  | selectedColumn _ head _ ih =>
    rw [List.forall_mem_append]
    refine ⟨fun field hfield => ?_, ih⟩
    rw [parameters_columnFields head field hfield]
    exact nullFree_nil
  | relation _ _ filter ordered ih =>
    rw [List.forall_mem_singleton, Expr.parameters, relatedQuery]
    refine nullFree_relatedSelect rfl (parameters_orderTerms ordered) ?_ ?_
    · rw [Expr.parameters, Expr.entryParameters_eq_flatMap]
      exact nullFree_flatMap.2 ih
    · rw [Condition.clauseParameters, Condition.parameters_joinedWith]
      exact filter.nullFree

/-- Compiled output columns bind no null. -/
theorem nullFree_projections {select? include? : Option Json} {name scope : String}
    {columns : List Sql.Projection}
    (compiled : Returns (context.projections select? include? name scope) a columns b) :
    NullFree (Sql.Projection.listParameters columns) := by
  obtain ⟨table, fields, -, rfl, derives⟩ := derives_of_projections compiled
  rw [Sql.Projection.listParameters_eq_flatMap, nullFree_flatMap, List.forall_mem_map]
  intro field hfield
  rw [expr_outputColumn]
  exact derives.nullFree field hfield

/-- The condition of a statement binds no null. -/
theorem nullFree_conditionOn? {filter? : Option Json} {table : String} {scope? : Option String}
    {condition? : Option Condition}
    (compiled : Returns (context.conditionOn? filter? table scope?) a condition? b) :
    NullFree (Condition.clauseParameters condition?) := by
  cases filter? with
  | none =>
    rw [conditionOn?, returns_pure] at compiled
    rw [compiled.1]
    exact nullFree_nil
  | some filter =>
    simp only [conditionOn?, FilterContext.conditionOn, returns_inFilters, returns_bind,
      returns_monadLift] at compiled
    obtain ⟨_, ⟨_, _, -, compiled⟩, -⟩ := compiled
    exact FilterContext.nullFree_condition compiled

end ProjectionContext

end RelationalQuery
