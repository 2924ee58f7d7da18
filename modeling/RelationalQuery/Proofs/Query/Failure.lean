import RelationalQuery.Proofs.Projection.Failure
import RelationalQuery.Proofs.Query.Insertion
import RelationalQuery.Proofs.Sql.Failure
import RelationalQuery.Query.Compiler

/-!
# Queries that fail

A query fails on what is wrong with its input, or with the error of the validator that refused a
record; then this record is the last one that was checked.  No step has errors of its own.

Main definitions:

- `WriteContext.Failure` says that an error is one of the input or comes from the last check.

Main results:

- `WriteContext.failsOnly_insertPlan` and `WriteContext.failsOnly_alterationPlan`: the data of
  inserts and updates.
- `WriteContext.failsOnly_compile`: a query on a table that is known has only these failures.
- `WriteContext.failsOnly_compile_unknown`: a query on another table reports it, or needs no table
  and fails to be rendered.
-/

namespace RelationalQuery

open Sql (ColumnRef Expr)

section

variable {repository : Repository}

/-! ## The validator of schemas -/

theorem errsOnly_ensure {condition : Bool} {path : String} {fault : ValueFault} :
    ErrsOnly repository.InputError (ensure condition path fault) := by
  unfold ensure
  split
  · exact errsOnly_ok
  · exact errsOnly_error .invalidValue

/-- A text that does not have its format is an error of the input. -/
theorem errsOnly_checkText {format : Option StringFormat} {text path : String} :
    ErrsOnly repository.InputError (checkText format text path) := by
  cases format with
  | none =>
    rw [checkText]
    exact errsOnly_ok
  | some format =>
    rw [checkText]
    exact errsOnly_ensure

/-- So is a missing member. -/
theorem ObjectSchema.errsOnly_checkRequired {fields : List (String × Field)} {record : Members}
    {path : String} :
    ErrsOnly repository.InputError (ObjectSchema.checkRequired fields record path) :=
  .forM fun _ _ => errsOnly_ensure

mutual

/-- The validator of schemas fails only by errors of the input. -/
theorem Field.errsOnly_validate : ∀ (field : Field) {value : Json} {path : String}
    {mode : ValidationMode}, ErrsOnly repository.InputError (field.validate value path mode)
  | ⟨kind, _, _, _, _⟩, value, _, _ => by
    cases value with
    | null =>
      rw [Field.validate]
      exact errsOnly_ensure
    | bool _ | number _ | string _ | array _ | object _ =>
      rw [Field.validate]
      · exact kind.errsOnly_validate
      · nofun

theorem FieldKind.errsOnly_validate : ∀ (kind : FieldKind) {extensible : Bool} {value : Json}
    {path : String} {mode : ValidationMode},
      ErrsOnly repository.InputError (kind.validate extensible value path mode)
  | .boolean, _, _, _, _ => by
    rw [FieldKind.validate]
    exact errsOnly_ensure
  | .number _, _, value, _, _ => by
    cases value with
    | number number =>
      rw [FieldKind.validate]
      exact errsOnly_ensure
    | _ =>
      rw [FieldKind.validate]
      · exact errsOnly_ensure
      · simp
  | .string format, _, value, _, _ => by
    cases value with
    | string text =>
      rw [FieldKind.validate]
      exact errsOnly_checkText
    | _ =>
      rw [FieldKind.validate]
      · exact errsOnly_error .invalidValue
      · nofun
  | .object schema, _, value, _, _ => by
    cases value with
    | object record =>
      rw [FieldKind.validate]
      exact schema.errsOnly_validate
    | _ =>
      rw [FieldKind.validate]
      · exact errsOnly_error .invalidValue
      · nofun
  | .array element, _, value, _, _ => by
    cases value with
    | array items =>
      rw [FieldKind.validate]
      exact .forM fun _ _ => element.errsOnly_validate
    | _ =>
      rw [FieldKind.validate]
      · exact errsOnly_error .invalidValue
      · nofun
  | .union _, _, _, _, _ => by
    rw [FieldKind.validate]
    exact errsOnly_ensure

/-- The check of a record by its schema has only errors of the input. -/
theorem ObjectSchema.errsOnly_validate : ∀ (schema : ObjectSchema) {extensible : Bool}
    {record : Members} {path : String} {mode : ValidationMode},
      ErrsOnly repository.InputError (schema.validate extensible record path mode)
  | ⟨fields⟩, _, _, _, _ => by
    rw [ObjectSchema.validate]
    refine ErrsOnly.bind (.forM fun _ _ => Field.errsOnly_validateNamed fields) fun _ _ => ?_
    split
    · exact ObjectSchema.errsOnly_checkRequired
    · exact errsOnly_pure

theorem Field.errsOnly_validateNamed : ∀ (fields : List (String × Field)) {extensible : Bool}
    {name : String} {value : Json} {path : String} {mode : ValidationMode},
      ErrsOnly repository.InputError (Field.validateNamed fields extensible name value path mode)
  | [], _, _, _, _, _ => by
    rw [Field.validateNamed]
    split
    · exact errsOnly_ok
    · exact errsOnly_error .malformed
  | (_, field) :: rest, _, _, _, _, _ => by
    rw [Field.validateNamed]
    split
    · exact field.errsOnly_validate
    · exact Field.errsOnly_validateNamed rest

end

/-! ## Values and entries -/

/-- Every value of a field has an expression: null is a literal, and every other value is encoded. -/
theorem succeeds_fieldExpr {value : Json} {field : Field} : Succeeds (fieldExpr value field) := by
  unfold fieldExpr
  split
  · exact succeeds_ok
  · rename_i hnull
    rw [succeeds_map, Parameter.succeeds_ofValue_iff]
    exact mt Json.isNull_iff.2 hnull

/-- A value that has no parameter is an error of the input. -/
theorem errsOnly_fieldExpr {value : Json} {field : Field} :
    ErrsOnly repository.InputError (fieldExpr value field) :=
  errsOnly_of_succeeds succeeds_fieldExpr

/-- So is a record with such a value, or with a key that is not declared. -/
theorem errsOnly_encodedRecord {record : Members} {schema : ObjectSchema} {path : String} :
    ErrsOnly repository.InputError (encodedRecord record schema path) :=
  ErrsOnly.bind_pure (.mapM fun _ _ =>
    ObjectSchema.errsOnly_field.bind fun _ _ => errsOnly_fieldExpr.bind_pure)

/-- So is a payload that is no object. -/
theorem errsOnly_relationPayload {value : Json} {path : String} :
    ErrsOnly repository.InputError (relationPayload value path) := by
  unfold relationPayload
  split
  · exact errsOnly_ok
  · exact errsOnly_ok
  · exact errsOnly_ok
  · exact errsOnly_error .malformed

/-- So are the payloads of a relation with such an item. -/
theorem errsOnly_childPayloads {relation : Relation} {value : Json} {path : String} :
    ErrsOnly repository.InputError (WriteContext.childPayloads relation value path) := by
  unfold WriteContext.childPayloads
  simp only
  split
  · split
    · exact ErrsOnly.bind_pure (.mapM fun _ _ => errsOnly_relationPayload.bind_pure)
    · exact errsOnly_error .malformed
  · exact (ErrsOnly.bind_pure errsOnly_relationPayload).bind_pure

/-- So is an operation that is none. -/
theorem errsOnly_operationExpr {target : ColumnRef} {members : Members} {field : Field}
    {path : String} :
    ErrsOnly repository.InputError (operationExpr target members field path) := by
  refine ErrsOnly.bind ?_ fun _ _ => errsOnly_pure
  unfold atomicOperation
  split
  · split
    · split
      · exact errsOnly_pure
      · exact errsOnly_error .invalidValue
    · exact errsOnly_error .malformed
  · exact errsOnly_error .malformed

end

/-! ## Data -/

namespace WriteContext

/-- What the compilation of a query can fail with: an error of its input over the tables, or the
error of the validator, which refused the last record that was checked. -/
def Failure (context : WriteContext) (e : QueryError) (next : Progress) : Prop :=
  context.repository.InputError e ∨
    ∃ call, next.calls.getLast? = some call ∧
      context.validator call.record call.schema call.path call.mode = .error e

variable {context : WriteContext} {table : Table}

section

variable {α β : Type}

/-- Steps that fail only by errors of the input may stand in a compilation. -/
theorem failsOnly_lift {x : Except QueryError α}
    (h : ErrsOnly context.repository.InputError x) :
    FailsOnly context.Failure (monadLift x : Compilation α) :=
  (failsOnly_monadLift h).mono fun _ _ => .inl

theorem failsOnly_bind_lift {x : Except QueryError α} {f : α → Compilation β}
    (head : ErrsOnly context.repository.InputError x)
    (tail : ∀ a, x = .ok a → FailsOnly context.Failure (f a)) :
    FailsOnly context.Failure ((monadLift x : Compilation α) >>= f) :=
  (failsOnly_lift head).bind fun a _ _ ha => tail a (returns_monadLift.1 ha).1

theorem failsOnly_malformed {path : String} {cause : Malformation} :
    FailsOnly context.Failure (throw (.malformed path cause) : Compilation α) :=
  failsOnly_throw fun _ => .inl .malformed

end

/-- A check fails as the validator does. -/
theorem failsOnly_check {record : Members} {schema : ObjectSchema} {path : String}
    {mode : ValidationMode} :
    FailsOnly context.Failure (context.validate record schema path mode) :=
  failsOnly_validate.mono fun _ _ h => .inr ⟨_, h.2, h.1⟩

/-- Entries whose keys the new row holds fail by the validator or by the input. -/
theorem failsOnly_addForeign {keys : ForeignKeys} {entry : Relation × Json} :
    FailsOnly context.Failure (context.addForeign table.name keys entry) := by
  refine failsOnly_bind_lift errsOnly_relationPayload fun payload? _ => ?_
  cases payload? with
  | none => exact failsOnly_pure
  | some payload =>
    simp only
    split
    · exact failsOnly_malformed
    · split
      · split
        · exact failsOnly_malformed
        · exact failsOnly_pure
      · exact failsOnly_check.bind fun _ _ _ _ =>
          failsOnly_bind_lift errsOnly_encodedRecord fun _ _ => failsOnly_pure

theorem failsOnly_childRow {relation : Relation} {entry : String × Members} :
    FailsOnly context.Failure (context.childRow relation entry) := by
  unfold childRow
  simp only
  split
  · exact failsOnly_malformed
  · exact failsOnly_check.bind fun _ _ _ _ =>
      failsOnly_bind_lift errsOnly_encodedRecord fun _ _ => failsOnly_pure

/-- So do the rows that refer to the new row. -/
theorem failsOnly_childRows {entry : Relation × Json} :
    FailsOnly context.Failure (context.childRows table.name entry) :=
  failsOnly_bind_lift errsOnly_childPayloads fun _ _ => .mapM fun _ _ => failsOnly_childRow

/-- The data of an insert fails on its form, or where a row of it is refused. -/
theorem failsOnly_insertPlan {data : Members} :
    FailsOnly context.Failure (context.insertPlan table data) := by
  refine (FailsOnly.foldlM fun _ _ _ => failsOnly_addForeign).bind fun _ _ _ _ => ?_
  refine failsOnly_check.bind fun _ _ _ _ => ?_
  refine failsOnly_bind_lift errsOnly_encodedRecord fun _ _ => ?_
  exact (FailsOnly.mapM fun _ _ => failsOnly_childRows).bind fun _ _ _ _ => failsOnly_pure

/-- So do the keys of a patch. -/
theorem failsOnly_patchExpr {column : String} {schema : ObjectSchema} {path : String}
    {qualifier? : Option String} {entry : String × Json} :
    FailsOnly context.Failure (context.patchExpr column schema path qualifier? entry) := by
  refine failsOnly_bind_lift ObjectSchema.errsOnly_field fun _ _ => ?_
  split
  · exact failsOnly_lift errsOnly_operationExpr
  · exact failsOnly_check.bind fun _ _ _ _ => failsOnly_pure

/-- So do the entries of columns. -/
theorem failsOnly_fieldAssignments {schema : ObjectSchema} {path : String}
    {qualifier? : Option String} {entry : String × Json} :
    FailsOnly context.Failure (context.fieldAssignments schema path qualifier? entry) := by
  refine failsOnly_bind_lift ObjectSchema.errsOnly_field fun _ _ => ?_
  simp only
  split
  · exact failsOnly_bind_lift errsOnly_operationExpr fun _ _ => failsOnly_pure
  · refine (FailsOnly.mapM fun _ _ => ?_).bind fun _ _ _ _ => failsOnly_pure
    exact failsOnly_patchExpr.bind fun _ _ _ _ => failsOnly_pure
  · exact failsOnly_check.bind fun _ _ _ _ =>
      failsOnly_bind_lift errsOnly_fieldExpr fun _ _ => failsOnly_pure

theorem failsOnly_connect {path : String} {plan : AlterationPlan} {relation : Relation}
    {payload : Members} {key : Json} :
    FailsOnly context.Failure (context.connect table path plan relation payload key) := by
  simp only [connect]
  split
  · exact failsOnly_malformed.bind fun _ _ _ h => absurd h not_returns_throw
  · split
    all_goals
      exact failsOnly_check.bind fun _ _ _ _ =>
        failsOnly_bind_lift ObjectSchema.errsOnly_field fun _ _ =>
          failsOnly_bind_lift errsOnly_fieldExpr fun _ _ => failsOnly_pure

/-- So do the entries of relations in an update. -/
theorem failsOnly_addRelation {data : Members} {plan : AlterationPlan} {relation : Relation} :
    FailsOnly context.Failure (context.addRelation table data plan relation) := by
  unfold addRelation
  simp only
  split
  · exact failsOnly_pure
  · split
    · exact failsOnly_connect
    · exact (FailsOnly.mapM fun _ _ => failsOnly_fieldAssignments).bind fun _ _ _ _ =>
        failsOnly_pure
  · exact failsOnly_malformed

/-- The data of an update fails on its form, or where a value of it is refused. -/
theorem failsOnly_alterationPlan {data : Members} :
    FailsOnly context.Failure (context.alterationPlan table data) :=
  (FailsOnly.mapM fun _ _ => failsOnly_fieldAssignments).bind fun _ _ _ _ =>
    .foldlM fun _ _ _ => failsOnly_addRelation

end WriteContext

/-! ## Chains -/

section

variable {context : ProjectionContext} {table : Table} {select? include? : Option Json}

/-- The subquery over created rows of a relation fails only on its input. -/
theorem CreatedRows.failsOnly_expr {created : CreatedRows} {selection? included? : Option Json}
    {path : String} (known : context.repository.table? table.name = some table)
    (declared : created.relation ∈ table.relations) :
    FailsOnly (fun e _ => context.repository.InputError e)
      (created.expr context selection? included? path) := by
  refine .bind_monadLift IncludeOptions.errsOnly_check.bind_pure fun options _ => ?_
  refine failsOnly_fresh.inProjections.bind fun label _ _ _ => ?_
  refine .bind_monadLift (Repository.errsOnly_table known declared) fun related hrelated => ?_
  have hknown := Repository.table?_self (Repository.table_eq_ok_iff.1 hrelated)
  refine (ProjectionContext.failsOnly_fields _ _ hknown).bind fun object _ _ _ => ?_
  have hordered : ∀ condition?, FailsOnly (fun e (_ : Aliases) => context.repository.InputError e)
      (do
        let order ←
          if created.relation.shape.isSingular then pure []
          else orderTerms? options.order? related (some label) (joinPath path "order")
        return Expr.subquery (relatedSelect created.relation.shape.isSingular options
          (.object object) (created.rows label) condition? order)) := by
    intro condition?
    simp only
    split
    · exact failsOnly_pure.bind fun _ _ _ _ => failsOnly_pure
    · exact .bind_monadLift errsOnly_orderTerms? fun _ _ => failsOnly_pure
  simp only
  split
  · exact failsOnly_pure.bind fun condition? _ _ _ => hordered condition?
  · exact (FilterContext.failsOnly_condition hknown).inFilters.bind fun condition? _ _ _ =>
      hordered condition?

/-- The selection of created rows fails only on its input. -/
theorem failsOnly_createdSelect {created : List CreatedRows} {parent : String}
    (known : context.repository.table? table.name = some table)
    (declared : ∀ rows ∈ created, rows.relation ∈ table.relations) :
    FailsOnly (fun e _ => context.repository.InputError e)
      (createdSelect context table parent created select? include?) := by
  refine (ProjectionContext.failsOnly_projections known).bind fun _ _ _ _ => ?_
  refine FailsOnly.bind (.mapM fun rows hrows => ?_) fun _ _ _ _ => failsOnly_pure
  exact (CreatedRows.failsOnly_expr known (declared rows (List.mem_filter.1 hrows).1)).bind
    fun _ _ _ _ => failsOnly_pure

/-- The chain of an insert fails only on its input. -/
theorem InsertPlan.failsOnly_chain {plan : InsertPlan} (fits : plan.Fits table)
    (known : context.repository.table? table.name = some table) :
    FailsOnly (fun e _ => context.repository.InputError e)
      (plan.chain context table select? include?) := by
  unfold InsertPlan.chain
  simp only
  split
  · split
    · exact (ProjectionContext.failsOnly_projections known).bind fun _ _ _ _ => failsOnly_pure
    · exact failsOnly_pure.bind fun _ _ _ _ => failsOnly_pure
  · split
    · refine (failsOnly_createdSelect known fun rows hrows => ?_).bind fun _ _ _ _ =>
        failsOnly_pure
      exact Table.mem_of_relation? (relation?_of_mem_created fits hrows)
    · exact failsOnly_pure

/-- The chain of an update fails only on its input. -/
theorem AlterationPlan.failsOnly_chain {plan : AlterationPlan} {filter? : Option Json}
    (known : context.repository.table? table.name = some table) :
    FailsOnly (fun e _ => context.repository.InputError e)
      (plan.chain context table filter? select? include?) := by
  have hof : ∀ statements, FailsOnly (fun e _ => context.repository.InputError e)
      (plan.chainOf context table select? include? statements) := by
    intro statements
    unfold chainOf
    simp only
    split
    · exact (ProjectionContext.failsOnly_projections known).naming.bind fun _ _ _ _ =>
        failsOnly_pure
    · exact failsOnly_pure
  have hreturning : FailsOnly (fun e _ => context.repository.InputError e)
      (plan.returning context table select? include?) := by
    unfold returning
    split
    · exact failsOnly_pure
    · split
      · exact ProjectionContext.failsOnly_projections known
      · exact failsOnly_pure
  unfold AlterationPlan.chain
  refine (ProjectionContext.failsOnly_conditionOn? known).naming.bind fun _ _ _ _ => ?_
  refine hreturning.naming.bind fun _ _ _ _ => ?_
  simp only
  split
  · exact failsOnly_emit.bind fun _ _ _ _ => hof _
  · exact hof _

/-! ## Single statements -/

namespace ProjectionContext

variable {name : String}

/-- A selection from a known table fails only by the input. -/
theorem failsOnly_select {query : SelectQuery}
    (known : context.repository.table? name = some table) :
    FailsOnly (fun e _ => context.repository.InputError e) (context.select name query) := by
  refine .bind_monadLift ?_ fun _ _ => (failsOnly_projections known).bind fun _ _ _ _ =>
    (failsOnly_conditionOn? known).bind fun _ _ _ _ =>
      .bind_monadLift errsOnly_orderTerms? fun _ _ => failsOnly_pure
  rw [Repository.table_eq_ok_iff.2 known]
  exact errsOnly_ok

/-- So does a delete. -/
theorem failsOnly_delete {query : DeleteQuery}
    (known : context.repository.table? name = some table) :
    FailsOnly (fun e _ => context.repository.InputError e) (context.delete name query) := by
  refine (failsOnly_conditionOn? known).bind fun _ _ _ _ => ?_
  simp only
  split
  · exact (failsOnly_projections known).bind fun _ _ _ _ => failsOnly_pure
  · exact failsOnly_pure.bind fun _ _ _ _ => failsOnly_pure

/-- So does a count. -/
theorem failsOnly_count {query : CountQuery}
    (known : context.repository.table? name = some table) :
    FailsOnly (fun e _ => context.repository.InputError e) (context.count name query) :=
  (failsOnly_conditionOn? known).bind fun _ _ _ _ => failsOnly_pure

end ProjectionContext

end

/-! ## Compiled queries -/

namespace WriteContext

variable {context : WriteContext} {table : String} {info : Table} {query : Query}

/-- The statements of a query on a table that is known fail on its input, or where a record is
refused. -/
theorem failsOnly_chain (known : context.repository.table? table = some info) :
    FailsOnly context.Failure (context.chain table query) := by
  have hfound := Repository.table_eq_ok_iff.2 known
  have hself : context.projection.repository.table? info.name = some info :=
    Repository.table?_self known
  cases query with
  | insert query =>
    refine failsOnly_bind_lift ?_ fun found hsame => ?_
    · rw [hfound]
      exact errsOnly_ok
    · obtain rfl := Except.ok.inj (hfound.symm.trans hsame)
      split
      · refine failsOnly_insertPlan.bind fun _ _ _ hplan => ?_
        exact (InsertPlan.failsOnly_chain (insertPlan_fits hplan) hself).naming.mono
          fun _ _ => .inl
      · exact failsOnly_malformed
  | update query =>
    refine failsOnly_bind_lift ?_ fun found hsame => ?_
    · rw [hfound]
      exact errsOnly_ok
    · obtain rfl := Except.ok.inj (hfound.symm.trans hsame)
      split
      · exact failsOnly_alterationPlan.bind fun _ _ _ _ =>
          (AlterationPlan.failsOnly_chain hself).mono fun _ _ => .inl
      · exact failsOnly_malformed
  | select query | findOne query =>
    exact ((ProjectionContext.failsOnly_select known).naming.mono fun _ _ => .inl).bind
      fun _ _ _ _ => failsOnly_pure
  | delete query =>
    exact ((ProjectionContext.failsOnly_delete known).naming.mono fun _ _ => .inl).bind
      fun _ _ _ _ => failsOnly_pure
  | count query =>
    exact ((ProjectionContext.failsOnly_count known).naming.mono fun _ _ => .inl).bind
      fun _ _ _ _ => failsOnly_pure

/-- A query on a table that is known fails on its input, or where a record is refused. -/
theorem failsOnly_compile (known : context.repository.table? table = some info) :
    FailsOnly context.Failure (context.compile table query) := by
  refine (failsOnly_chain known).bind fun chain _ _ _ => ?_
  refine failsOnly_bind_lift ?_ fun _ _ => ?_
  · refine chain.errsOnly_tokens.mono ?_
    rintro _ ⟨cause, rfl⟩
    exact .structural
  · exact failsOnly_emit.bind fun _ _ _ _ => failsOnly_emit.bind fun _ _ _ _ => failsOnly_pure

/-- What starts with the look-up of a table that is not known reports it. -/
theorem failsOnly_unknown {σ α : Type} {f : Table → ExceptT QueryError (StateM σ) α}
    (unknown : context.repository.table? table = none) :
    FailsOnly (fun e _ => e = .unknownTable table ∨ e.IsStructural)
      ((monadLift (context.repository.table table) : ExceptT QueryError (StateM σ) Table) >>= f) := by
  have hmissing : context.repository.table table = .error (.unknownTable table) := by
    rw [Repository.table, unknown]
  rw [hmissing]
  exact .bind_monadLift (errsOnly_error (.inl rfl)) nofun

/-- A query on a table that is not known reports it, or needs no table and fails to be rendered. -/
theorem failsOnly_compile_unknown (unknown : context.repository.table? table = none) :
    FailsOnly (fun e _ => e = .unknownTable table ∨ e.IsStructural)
      (context.compile table query) := by
  have hprojections : ∀ select? include?,
      FailsOnly (fun e _ => e = .unknownTable table ∨ e.IsStructural)
        (context.projection.projections select? include? table table) :=
    fun _ _ => failsOnly_unknown unknown
  have hcondition : ∀ filter? scope?,
      FailsOnly (fun e _ => e = .unknownTable table ∨ e.IsStructural)
        (context.projection.conditionOn? filter? table scope?) := by
    intro filter? scope?
    cases filter? with
    | none => exact failsOnly_pure
    | some filter => exact (failsOnly_unknown unknown).inFilters
  refine FailsOnly.bind ?_ fun chain _ _ _ => .bind_monadLift
    (chain.errsOnly_tokens.mono fun _ => .inr) fun _ _ =>
      failsOnly_emit.bind fun _ _ _ _ => failsOnly_emit.bind fun _ _ _ _ => failsOnly_pure
  cases query with
  | insert query | update query => exact failsOnly_unknown unknown
  | select query | findOne query =>
    exact (FailsOnly.naming (failsOnly_unknown unknown)).bind fun _ _ _ _ => failsOnly_pure
  | delete query =>
    refine (FailsOnly.naming ((hcondition _ _).bind fun _ _ _ _ => ?_)).bind
      fun _ _ _ _ => failsOnly_pure
    simp only
    split
    · exact (hprojections _ _).bind fun _ _ _ _ => failsOnly_pure
    · exact failsOnly_pure.bind fun _ _ _ _ => failsOnly_pure
  | count query =>
    exact (FailsOnly.naming ((hcondition _ _).bind fun _ _ _ _ => failsOnly_pure)).bind
      fun _ _ _ _ => failsOnly_pure

end WriteContext

end RelationalQuery
