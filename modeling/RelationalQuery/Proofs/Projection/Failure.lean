import RelationalQuery.Projection.Basic
import RelationalQuery.Proofs.Failure
import RelationalQuery.Proofs.Filter.Derivation
import RelationalQuery.Proofs.Parameter

/-!
# Filters and projections that fail

Compiling filters and projections fails on what is wrong with the input: it is malformed, or a
relation of a table of the repository leads to no table.  The encoding of operands never fails,
since null is written as a literal before it is asked for.

Main definitions:

- `Repository.InputError` are the errors that an input can have over the tables of a repository.

Main results:

- `succeeds_operandExpr`: an operand always has an expression.
- `FilterContext.failsOnly_condition` and `ProjectionContext.failsOnly_projections`: filters and
  projections have only errors of their input.
- `Repository.InputError.not_unknownTable`: in a coherent repository all tables are known.
-/

namespace RelationalQuery

open Sql (ColumnRef)

/-! ## Errors of an input -/

/-- An error that an input can have over the tables of a repository: it is malformed or invalid, no
statement can be built from it, or a relation that it names leads to no table. -/
inductive Repository.InputError (repository : Repository) : QueryError → Prop
  | malformed {path : String} {cause : Malformation} : InputError repository (.malformed path cause)
  | invalidValue {path : String} {cause : ValueFault} :
      InputError repository (.invalidValue path cause)
  | structural {cause : StructuralFault} : InputError repository (.structural cause)
  | dangling {table : Table} {relation : Relation}
      (known : repository.table? table.name = some table) (declared : relation ∈ table.relations)
      (missing : repository.table? relation.relatedTable = none) :
      InputError repository (.unknownTable relation.relatedTable)

/-- In a coherent repository no relation leads to a table that is not known. -/
theorem Repository.InputError.not_unknownTable {repository : Repository}
    (coherent : repository.Coherent) {name : String} :
    ¬ repository.InputError (.unknownTable name) := by
  rintro (_ | _ | _ | @⟨table, relation, known, declared, missing⟩)
  obtain ⟨related, hrelated, -⟩ := (coherent _ _ known relation declared).related
  rw [hrelated] at missing
  cases missing

/-- A value that is not supported is no error of the input. -/
theorem Repository.InputError.not_unsupportedValue {repository : Repository}
    {cause : UnsupportedValue} : ¬ repository.InputError (.unsupportedValue cause) := nofun

/-- Looking up the related table of a relation fails only if the relation leads to no table. -/
theorem Repository.errsOnly_table {repository : Repository} {table : Table} {relation : Relation}
    (known : repository.table? table.name = some table) (declared : relation ∈ table.relations) :
    ErrsOnly repository.InputError (repository.table relation.relatedTable) := by
  unfold Repository.table
  cases hrelated : repository.table? relation.relatedTable with
  | some related => exact errsOnly_ok
  | none => exact errsOnly_error (.dangling known declared hrelated)

section

variable {repository : Repository}

/-- A key that is not declared is an error of the input. -/
theorem ObjectSchema.errsOnly_field {schema : ObjectSchema} {name path : String} :
    ErrsOnly repository.InputError (schema.field name path) := by
  unfold ObjectSchema.field
  split
  · exact errsOnly_ok
  · exact errsOnly_error .malformed

/-! ## Conditions of columns -/

/-- An operand always has an expression: null is a literal, and every other value is encoded. -/
theorem succeeds_operandExpr {value : Json} {field? : Option Field} {column : ColumnRef} :
    Succeeds (operandExpr value field? column) := by
  unfold operandExpr
  split
  · exact succeeds_ok
  · rename_i hnull
    split
    · rw [succeeds_map, Parameter.succeeds_ofValue_iff]
      exact mt Json.isNull_iff.2 hnull
    · exact succeeds_ok

theorem errsOnly_flagOperand {value : Json} {path : String} :
    ErrsOnly repository.InputError (flagOperand value path) := by
  unfold flagOperand
  split
  · exact errsOnly_ok
  · exact errsOnly_error .malformed

/-- So is an operand that has no parameter. -/
theorem errsOnly_operandExpr {value : Json} {field? : Option Field} {column : ColumnRef} :
    ErrsOnly repository.InputError (operandExpr value field? column) :=
  errsOnly_of_succeeds succeeds_operandExpr

/-- An operator fails only on an operand of another form. -/
theorem FilterOperator.errsOnly_condition {operator : FilterOperator} {value : Json}
    {field? : Option Field} {column : ColumnRef} {path : String} :
    ErrsOnly repository.InputError (operator.condition value field? column path) := by
  unfold FilterOperator.condition
  cases operator with
  | equal | notEqual =>
    simp only
    split
    · exact errsOnly_ok
    · exact errsOnly_operandExpr.map
  | greater | greaterOrEqual | less | lessOrEqual => exact errsOnly_operandExpr.map
  | isIn =>
    simp only
    split
    · exact (ErrsOnly.mapM fun _ _ => errsOnly_operandExpr).map
    · exact errsOnly_error .malformed
  | isBetween =>
    simp only
    split
    · exact errsOnly_operandExpr.bind fun _ _ => errsOnly_operandExpr.bind_pure
    · exact errsOnly_error .malformed
  | isNull | isMissing => exact errsOnly_flagOperand.map
  | startsWith | contains =>
    simp only
    split
    all_goals first | exact errsOnly_ok | exact errsOnly_error .malformed

mutual

/-- The entry of a column fails only on its form. -/
theorem errsOnly_predicates : ∀ {field? : Option Field} {column : ColumnRef} {path : String}
    (value : Json), ErrsOnly repository.InputError (predicates field? column path value)
  | _, _, _, .null => by
    rw [predicates]
    exact errsOnly_ok
  | _, _, _, .object members => by
    rw [predicates]
    exact errsOnly_memberPredicates members
  | _, _, _, .array _ => by
    rw [predicates]
    split
    · exact errsOnly_operandExpr.bind_pure
    · exact errsOnly_error .malformed
  | _, _, _, .bool _ | _, _, _, .number _ | _, _, _, .string _ => by
    rw [predicates]
    · exact errsOnly_operandExpr.bind_pure
    all_goals nofun

/-- The members of an entry fail only on their form. -/
theorem errsOnly_memberPredicates : ∀ {field? : Option Field} {column : ColumnRef} {path : String}
    (members : List (String × Json)),
      ErrsOnly repository.InputError (memberPredicates field? column path members)
  | _, _, _, [] => by
    rw [memberPredicates]
    exact errsOnly_ok
  | field?, _, _, (key, value) :: rest => by
    rw [memberPredicates]
    cases PredicateKey.ofKey field? key with
    | nested child? =>
      exact (errsOnly_predicates value).bind fun _ _ => (errsOnly_memberPredicates rest).bind_pure
    | operator op =>
      exact FilterOperator.errsOnly_condition.bind fun _ _ => errsOnly_pure.bind fun _ _ =>
        (errsOnly_memberPredicates rest).bind_pure
    | unexpected | unknownOperator => exact errsOnly_error .malformed

end

/-- So is an entry of a column that is no condition. -/
theorem Table.errsOnly_columnConditions {table : Table} {scope? : Option String}
    {path key : String} {value : Json} :
    ErrsOnly repository.InputError (table.columnConditions scope? path key value) :=
  ObjectSchema.errsOnly_field.bind fun _ _ => errsOnly_predicates value

end

/-! ## Filters -/

namespace FilterContext

variable {context : FilterContext}

mutual

/-- The entries of a filter over a table of the repository have only errors of the input. -/
theorem failsOnly_memberConditions : ∀ {table : Table} {scope? : Option String} {path : String}
    (members : List (String × Json)), context.repository.table? table.name = some table →
      FailsOnly (fun e _ => context.repository.InputError e)
        (context.memberConditions table scope? path members)
  | _, _, _, [], _ => by
    rw [memberConditions]
    exact failsOnly_pure
  | table, _, _, (key, value) :: rest, known => by
    rw [memberConditions]
    refine (failsOnly_entryConditions _ value known ?_).bind fun _ _ _ _ =>
      (failsOnly_memberConditions rest known).bind fun _ _ _ _ => failsOnly_pure
    exact fun relation hkind => FilterEntry.mem_of_ofKey hkind.symm

/-- An entry of a filter has only errors of the input. -/
theorem failsOnly_entryConditions : ∀ {table : Table} {scope? : Option String} {path key : String}
    (kind : FilterEntry) (value : Json), context.repository.table? table.name = some table →
      (∀ relation, kind = .relation relation → relation ∈ table.relations) →
      FailsOnly (fun e _ => context.repository.InputError e)
        (context.entryConditions table scope? path key kind value)
  | _, _, _, _, .group _, .array items, known, _ => by
    rw [entryConditions]
    exact (failsOnly_itemConditions items known).bind fun _ _ _ _ => failsOnly_pure
  | _, _, _, _, .group _, .object members, known, _
  | _, _, _, _, .negation, .object members, known, _ => by
    rw [entryConditions]
    exact (failsOnly_memberConditions members known).bind fun _ _ _ _ => failsOnly_pure
  | _, _, _, _, .relation relation, .null, known, declared => by
    rw [entryConditions]
    exact failsOnly_fresh.bind fun _ _ _ _ => .bind_monadLift
      (Repository.errsOnly_table known (declared relation rfl)) fun _ _ => failsOnly_pure
  | _, _, _, _, .relation relation, .object members, known, declared => by
    rw [entryConditions]
    refine failsOnly_fresh.bind fun _ _ _ _ => .bind_monadLift
      (Repository.errsOnly_table known (declared relation rfl)) fun related hrelated => ?_
    have hknown := Repository.table?_self (Repository.table_eq_ok_iff.1 hrelated)
    exact (failsOnly_memberConditions members hknown).bind fun _ _ _ _ => failsOnly_pure
  | _, _, _, _, .column, value, _, _ => by
    rw [entryConditions]
    exact failsOnly_monadLift Table.errsOnly_columnConditions
  | _, _, _, _, .relation relation, .bool _, known, declared
  | _, _, _, _, .relation relation, .number _, known, declared
  | _, _, _, _, .relation relation, .string _, known, declared
  | _, _, _, _, .relation relation, .array _, known, declared => by
    rw [entryConditions]
    exact failsOnly_fresh.bind fun _ _ _ _ => .bind_monadLift
      (Repository.errsOnly_table known (declared relation rfl)) fun _ _ =>
        failsOnly_throw fun _ => .malformed
  | _, _, _, _, .group _, .null, _, _ | _, _, _, _, .group _, .bool _, _, _
  | _, _, _, _, .group _, .number _, _, _ | _, _, _, _, .group _, .string _, _, _
  | _, _, _, _, .negation, .null, _, _ | _, _, _, _, .negation, .bool _, _, _
  | _, _, _, _, .negation, .number _, _, _ | _, _, _, _, .negation, .string _, _, _
  | _, _, _, _, .negation, .array _, _, _ => by
    rw [entryConditions]
    · exact failsOnly_throw fun _ => .malformed
    all_goals nofun

/-- The filters of a group have only errors of the input. -/
theorem failsOnly_itemConditions : ∀ {table : Table} {scope? : Option String} {path : String}
    {index : Nat} (items : List Json), context.repository.table? table.name = some table →
      FailsOnly (fun e _ => context.repository.InputError e)
        (context.itemConditions table scope? path index items)
  | _, _, _, _, [], _ => by
    rw [itemConditions]
    exact failsOnly_pure
  | _, _, _, _, .object members :: rest, known => by
    rw [itemConditions]
    exact (failsOnly_memberConditions members known).bind fun _ _ _ _ =>
      (failsOnly_itemConditions rest known).bind fun _ _ _ _ => failsOnly_pure
  | _, _, _, _, .null :: _, _ | _, _, _, _, .bool _ :: _, _ | _, _, _, _, .number _ :: _, _
  | _, _, _, _, .string _ :: _, _ | _, _, _, _, .array _ :: _, _ => by
    rw [itemConditions]
    · exact failsOnly_throw fun _ => .malformed
    all_goals nofun

end

/-- A filter over a known table fails only by errors of the input. -/
theorem failsOnly_condition {filter : Json} {table : Table} {scope? : Option String}
    {path : String} (known : context.repository.table? table.name = some table) :
    FailsOnly (fun e _ => context.repository.InputError e)
      (context.condition filter table scope? path) := by
  unfold condition
  split
  · exact (failsOnly_memberConditions _ known).bind fun _ _ _ _ => failsOnly_pure
  · exact failsOnly_throw fun _ => .malformed

end FilterContext

/-! ## Projections -/

section

variable {repository : Repository}

/-- An include tree fails only by errors of the input. -/
theorem errsOnly_checkIncludes {table : Table} {path : String} {include? : Option Json} :
    ErrsOnly repository.InputError (checkIncludes table path include?) := by
  unfold checkIncludes
  split
  · exact errsOnly_ok
  · refine ErrsOnly.forM fun _ _ => ?_
    split
    · exact errsOnly_ok
    · exact errsOnly_error .malformed
  · exact errsOnly_error .malformed

/-- So do the options of a relation. -/
theorem IncludeOptions.errsOnly_check {included? : Option Json} {path : String} :
    ErrsOnly repository.InputError (IncludeOptions.check included? path) := by
  unfold IncludeOptions.check
  split
  · exact errsOnly_ok
  · exact errsOnly_ok
  · refine ErrsOnly.forM fun member _ => ?_
    unfold checkMember
    simp only
    split
    · exact errsOnly_ok
    · split
      · split
        · exact errsOnly_ok
        · exact errsOnly_error .malformed
      · exact errsOnly_error .malformed
  · exact errsOnly_error .malformed

/-- So does the entry of a relation in a select tree. -/
theorem errsOnly_checkRelationSelection {value : Json} {path : String} :
    ErrsOnly repository.InputError (checkRelationSelection value path) := by
  unfold checkRelationSelection
  split
  · exact errsOnly_ok
  · exact errsOnly_ok
  · exact errsOnly_error .malformed

/-- So does a key inside a column. -/
theorem errsOnly_nestedField {field : Field} {key keyPath : String} :
    ErrsOnly repository.InputError (nestedField field key keyPath) := by
  unfold nestedField
  split
  · exact errsOnly_ok
  · split
    · exact errsOnly_ok
    · exact errsOnly_error .malformed

mutual

/-- So does the entry of such a key. -/
theorem errsOnly_nestedEntry : ∀ {field? : Option Field} {target : ColumnRef} {key keyPath : String}
    (value : Json), ErrsOnly repository.InputError (nestedEntry field? target key keyPath value)
  | _, _, _, _, .bool false | _, _, _, _, .bool true => by
    rw [nestedEntry]
    exact errsOnly_ok
  | some field, _, _, _, .object members => by
    rw [nestedEntry]
    split
    · exact (errsOnly_nestedFields members).bind_pure
    · exact errsOnly_error .malformed
  | none, _, _, _, .object _ => by
    rw [nestedEntry]
    exact errsOnly_error .malformed
  | _, _, _, _, .null | _, _, _, _, .number _ | _, _, _, _, .string _ | _, _, _, _, .array _ => by
    rw [nestedEntry]
    · exact errsOnly_error .malformed
    all_goals nofun

/-- A select tree over the keys of an object fails only on its form. -/
theorem errsOnly_nestedFields : ∀ {field : Field} {base : ColumnRef} {path : String}
    (members : List (String × Json)),
      ErrsOnly repository.InputError (nestedFields field base path members)
  | _, _, _, [] => by
    rw [nestedFields]
    exact errsOnly_ok
  | _, _, _, (_, value) :: rest => by
    rw [nestedFields]
    exact errsOnly_nestedField.bind fun _ _ => (errsOnly_nestedEntry value).bind fun _ _ =>
      (errsOnly_nestedFields rest).bind_pure

end

/-- So does the entry of a column. -/
theorem errsOnly_columnFields {table : Table} {scope path key : String} {value : Json} :
    ErrsOnly repository.InputError (columnFields table scope path key value) :=
  ObjectSchema.errsOnly_field.bind fun _ _ => errsOnly_nestedEntry value

/-- An order fails only on its form. -/
theorem errsOnly_orderTerms? {value? : Option Json} {table : Table} {scope? : Option String}
    {path : String} : ErrsOnly repository.InputError (orderTerms? value? table scope? path) := by
  cases value? with
  | none => exact errsOnly_ok
  | some value =>
    refine ErrsOnly.bind ?_ fun _ _ => ErrsOnly.mapM fun entry _ => ?_
    · unfold orderObjects
      split
      · exact errsOnly_ok
      · refine ErrsOnly.mapM fun _ _ => ?_
        split
        · exact errsOnly_ok
        · exact errsOnly_error .malformed
      · exact errsOnly_error .malformed
    · refine ObjectSchema.errsOnly_field.bind fun _ _ => ?_
      split
      · exact errsOnly_pure
      · exact errsOnly_error .malformed

end

namespace ProjectionContext

variable {context : ProjectionContext}

mutual

/-- Trees over a table of the repository have only errors of the input. -/
theorem failsOnly_fields : ∀ (select? include? : Option Json) {table : Table}
    {scope path : String}, context.repository.table? table.name = some table →
      FailsOnly (fun e _ => context.repository.InputError e)
        (context.fields select? include? table scope path)
  | none, include?, table, scope, path, known => by
    rw [fields]
    exact .bind_monadLift errsOnly_checkIncludes fun _ _ =>
      (failsOnly_includedFields (Json.membersOf include?) [] known).bind fun _ _ _ _ =>
        failsOnly_pure
  | some (.object members), include?, table, scope, path, known => by
    rw [fields]
    exact .bind_monadLift errsOnly_checkIncludes fun _ _ =>
      (failsOnly_selectedFields (Json.membersOf include?) members known).bind fun _ _ _ _ =>
        (failsOnly_includedFields (Json.membersOf include?) (Members.keys members) known).bind
          fun _ _ _ _ => failsOnly_pure
  | some .null, _, _, _, _, _ | some (.bool _), _, _, _, _, _ | some (.number _), _, _, _, _, _
  | some (.string _), _, _, _, _, _ | some (.array _), _, _, _, _, _ => by
    rw [fields]
    · exact .bind_monadLift errsOnly_checkIncludes fun _ _ =>
        failsOnly_throw fun _ => .malformed
    all_goals nofun
termination_by select? include? => (Json.sizeOrZero select? + Json.sizeOrZero include?, 1)
decreasing_by
  all_goals
    have := Json.membersSize_membersOf_le include?
    simp only [Json.sizeOrZero_none, Json.sizeOrZero_some, Json.size, Prod.lex_def]
    omega

/-- The members of a select tree fail only by errors of the input. -/
theorem failsOnly_selectedFields : ∀ (includes members : Members) {table : Table}
    {scope path : String}, context.repository.table? table.name = some table →
      FailsOnly (fun e _ => context.repository.InputError e)
        (context.selectedFields includes members table scope path)
  | includes, [], table, scope, path, known => by
    rw [selectedFields]
    exact failsOnly_pure
  | includes, (key, value) :: rest, table, scope, path, known => by
    rw [selectedFields]
    have hrest : ∀ first, FailsOnly (fun e _ => context.repository.InputError e) (do
        return first ++ (← context.selectedFields includes rest table scope path)) := fun _ =>
      (failsOnly_selectedFields includes rest known).bind fun _ _ _ _ => failsOnly_pure
    cases hrelation : table.relation? key with
    | some relation =>
      simp only
      split
      · exact failsOnly_pure.bind fun first _ _ _ => hrest first
      · refine .bind_monadLift errsOnly_checkRelationSelection fun _ _ => ?_
        exact (failsOnly_relationExpr relation (selectTree? value) (includedAs? includes key) known
          (Table.mem_of_relation? hrelation)).bind fun _ _ _ _ =>
            failsOnly_pure.bind fun first _ _ _ => hrest first
    | none =>
      exact .bind_monadLift errsOnly_columnFields fun first _ => hrest first
termination_by includes members => (Json.membersSize members + Json.membersSize includes, 0)
decreasing_by
  all_goals
    have := size_includedAs?_le includes key
    have := size_selectTree?_le value
    simp only [Json.membersSize, Prod.lex_def]
    omega

/-- So do those of an include tree. -/
theorem failsOnly_includedFields : ∀ (includes : Members) (named : List String) {table : Table}
    {scope path : String}, context.repository.table? table.name = some table →
      FailsOnly (fun e _ => context.repository.InputError e)
        (context.includedFields includes named table scope path)
  | [], named, table, scope, path, known => by
    rw [includedFields]
    exact failsOnly_pure
  | (name, entry) :: rest, named, table, scope, path, known => by
    rw [includedFields]
    have hrest : ∀ first, FailsOnly (fun e _ => context.repository.InputError e) (do
        return first ++ (← context.includedFields rest named table scope path)) := fun _ =>
      (failsOnly_includedFields rest named known).bind fun _ _ _ _ => failsOnly_pure
    simp only
    split
    · exact failsOnly_pure.bind fun first _ _ _ => hrest first
    · cases hrelation : table.relation? name with
      | some relation =>
        exact (failsOnly_relationExpr relation none (some entry) known
          (Table.mem_of_relation? hrelation)).bind fun _ _ _ _ =>
            failsOnly_pure.bind fun first _ _ _ => hrest first
      | none => exact failsOnly_throw fun _ => .malformed
termination_by includes => (Json.membersSize includes, 0)
decreasing_by
  all_goals
    simp only [Json.membersSize, Json.sizeOrZero, Prod.lex_def]
    omega

/-- So does what is asked for of a relation. -/
theorem failsOnly_relationExpr (relation : Relation) (selection? included? : Option Json)
    {table : Table} {outer path : String}
    (known : context.repository.table? table.name = some table)
    (declared : relation ∈ table.relations) :
    FailsOnly (fun e _ => context.repository.InputError e)
      (context.relationExpr relation selection? included? outer path) := by
  rw [relationExpr]
  refine .bind_monadLift (Repository.errsOnly_table known declared)
    fun related hrelated => ?_
  have hknown := Repository.table?_self (Repository.table_eq_ok_iff.1 hrelated)
  refine .bind_monadLift IncludeOptions.errsOnly_check fun _ _ => ?_
  refine failsOnly_fresh.inProjections.bind fun _ _ _ _ => ?_
  refine (failsOnly_fields _ _ hknown).bind fun _ _ _ _ => ?_
  -- A filter is compiled before the order.
  split
  · exact failsOnly_pure.bind fun _ _ _ _ =>
      .bind_monadLift errsOnly_orderTerms? fun _ _ => failsOnly_pure
  · exact (FilterContext.failsOnly_condition hknown).inFilters.bind fun _ _ _ _ =>
      failsOnly_pure.bind fun _ _ _ _ =>
        .bind_monadLift errsOnly_orderTerms? fun _ _ => failsOnly_pure
termination_by (Json.sizeOrZero selection? + Json.sizeOrZero included?, 2)
decreasing_by
  have := IncludeOptions.size_le included?
  have := size_orElse_le selection? (IncludeOptions.ofEntry included?).select?
  simp only [Prod.lex_def]
  omega

end

/-- Output columns over a table that is known have only errors of the input. -/
theorem failsOnly_projections {select? include? : Option Json} {table scope : String} {info : Table}
    (known : context.repository.table? table = some info) :
    FailsOnly (fun e _ => context.repository.InputError e)
      (context.projections select? include? table scope) := by
  have hfound := Repository.table_eq_ok_iff.2 known
  refine .bind_monadLift ?_ fun found hsame => ?_
  · rw [hfound]
    exact errsOnly_ok
  · obtain rfl := Except.ok.inj (hfound.symm.trans hsame)
    exact (failsOnly_fields _ _ (Repository.table?_self known)).bind fun _ _ _ _ => failsOnly_pure

/-- The condition of a filter over a table that is known has only errors of the input. -/
theorem failsOnly_conditionOn? {filter? : Option Json} {table : String} {scope? : Option String}
    {info : Table} (known : context.repository.table? table = some info) :
    FailsOnly (fun e _ => context.repository.InputError e)
      (context.conditionOn? filter? table scope?) := by
  have hfound := Repository.table_eq_ok_iff.2 known
  cases filter? with
  | none => exact failsOnly_pure
  | some filter =>
    refine FailsOnly.inFilters (.bind_monadLift ?_ fun found hsame => ?_)
    · rw [ProjectionContext.filters, hfound]
      exact errsOnly_ok
    · obtain rfl := Except.ok.inj (hfound.symm.trans hsame)
      exact FilterContext.failsOnly_condition (Repository.table?_self known)

end ProjectionContext

end RelationalQuery
