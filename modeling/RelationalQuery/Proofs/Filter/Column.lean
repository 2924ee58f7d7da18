import RelationalQuery.Filter.Basic
import RelationalQuery.Proofs.Coherence
import RelationalQuery.Proofs.Parameter
import RelationalQuery.Proofs.Sql.OnColumn

/-!
# Conditions of columns in filters

The entry of a column in a filter, with all keys and operators below it, is compiled to conditions
that test this column alone.

Main definitions:

- `Sql.Condition.IsPredicate` are the conditions that test a column against values.
- `FilterOperator.Compiles` are the conditions that an operator is compiled to, by its operand.

Main results:

- `FilterOperator.compiles_of_condition`: the condition of an operator is one of these.
- `Table.columnConditions_isPredicate`: the conditions of the entry of a column are such.
- `Table.columnConditions_onColumn`: they read the column and nothing else.
-/

namespace RelationalQuery

open Sql (ColumnRef Condition Expr)

namespace Sql

/-- A value to compare with: a parameter, or the literal null. -/
inductive Expr.IsValue : Expr → Prop
  | null : IsValue .null
  | parameter {value : Parameter} : IsValue (.parameter value)

/-- A condition tests a column, or a value inside it, against values. -/
inductive Condition.IsPredicate (qualifier? : Option String) (name : String) : Condition → Prop
  | compare {path : List String} {comparison : Comparison} {right : Expr} (value : right.IsValue) :
      IsPredicate qualifier? name (.compare (.column ⟨qualifier?, name, path⟩) comparison right)
  | nullCheck {path : List String} {isNull : Bool} :
      IsPredicate qualifier? name (.nullCheck (.column ⟨qualifier?, name, path⟩) isNull)
  | inList {path : List String} {values : List Expr} (members : ∀ value ∈ values, value.IsValue) :
      IsPredicate qualifier? name (.inList (.column ⟨qualifier?, name, path⟩) values)
  | between {path : List String} {low high : Expr} (lower : low.IsValue) (upper : high.IsValue) :
      IsPredicate qualifier? name (.between (.column ⟨qualifier?, name, path⟩) low high)
  | startsWith {path : List String} {value : Parameter} :
      IsPredicate qualifier? name
        (.startsWith (textExpr ⟨qualifier?, name, path⟩) (.parameter value))
  | containsText {path : List String} {value : Parameter} :
      IsPredicate qualifier? name
        (.containsText (textExpr ⟨qualifier?, name, path⟩) (.parameter value))
  | hasKey {path : List String} {key : String} :
      IsPredicate qualifier? name (.hasKey ⟨qualifier?, name, path⟩ key)
  | lacksKey {path : List String} {key : String} :
      IsPredicate qualifier? name (.not (.hasKey ⟨qualifier?, name, path⟩ key))

variable {qualifier? : Option String} {name : String}

theorem Expr.IsValue.onColumn {expr : Expr} (h : expr.IsValue) : expr.OnColumn qualifier? name := by
  cases h with
  | null => exact .null
  | parameter => exact .parameter

theorem textExpr_onColumn {path : List String} :
    (textExpr ⟨qualifier?, name, path⟩).OnColumn qualifier? name := by
  unfold textExpr
  split
  · exact .column
  · exact .columnText

/-- A predicate reads the column and nothing else. -/
theorem Condition.IsPredicate.onColumn {condition : Condition}
    (h : condition.IsPredicate qualifier? name) : condition.OnColumn qualifier? name := by
  cases h with
  | compare value => exact .compare .column value.onColumn
  | nullCheck => exact .nullCheck .column
  | inList members => exact .inList .column fun value hvalue => (members value hvalue).onColumn
  | between lower upper => exact .between .column lower.onColumn upper.onColumn
  | startsWith => exact .startsWith textExpr_onColumn .parameter
  | containsText => exact .containsText textExpr_onColumn .parameter
  | hasKey => exact .hasKey
  | lacksKey => exact .not .hasKey

end Sql

/-! ## What operators are compiled to -/

/-- An operand is the literal null, or a parameter that holds the value. -/
theorem operandExpr_cases {value : Json} {field? : Option Field} {column : ColumnRef} {expr : Expr}
    (h : operandExpr value field? column = .ok expr) :
    (value = .null ∧ expr = .null) ∨
      (value ≠ .null ∧ ∃ parameter : Parameter, expr = .parameter parameter ∧
        parameter.value = value) := by
  unfold operandExpr at h
  split at h
  · rename_i hnull
    exact .inl ⟨Json.isNull_iff.1 hnull, (Except.ok.inj h).symm⟩
  · rename_i hnull
    have hvalue : value ≠ .null := mt Json.isNull_iff.2 hnull
    split at h
    · obtain ⟨parameter, hparameter, rfl⟩ := map_eq_ok_iff.1 h
      exact .inr ⟨hvalue, parameter, rfl, Parameter.value_of_ofValue hparameter⟩
    · exact .inr ⟨hvalue, _, (Except.ok.inj h).symm, rfl⟩

namespace FilterOperator

/-- The comparison of values that an operator stands for. -/
def comparison? : FilterOperator → Option Sql.Comparison
  | .equal => some .equal
  | .notEqual => some .notEqual
  | .greater => some .greater
  | .greaterOrEqual => some .greaterOrEqual
  | .less => some .less
  | .lessOrEqual => some .lessOrEqual
  | .isIn | .isBetween | .isNull | .isMissing | .startsWith | .contains => none

/-- An operator with its operand is compiled to a condition on a column.  Being equal to null or not
is a null check, and for all other comparisons null is an operand like others. -/
inductive Compiles (field? : Option Field) (column : ColumnRef) :
    FilterOperator → Json → Condition → Prop
  | equalNull : Compiles field? column .equal .null (.nullCheck (.column column) true)
  | notEqualNull : Compiles field? column .notEqual .null (.nullCheck (.column column) false)
  | compare {operator : FilterOperator} {comparison : Sql.Comparison} {value : Json} {right : Expr}
      (named : operator.comparison? = some comparison)
      (ordered : value = .null → operator ≠ .equal ∧ operator ≠ .notEqual)
      (operand : operandExpr value field? column = .ok right) :
      Compiles field? column operator value (.compare (.column column) comparison right)
  | isIn {items : List Json} {values : List Expr}
      (operands : List.Forall₂ (fun item value => operandExpr item field? column = .ok value)
        items values) :
      Compiles field? column .isIn (.array items) (.inList (.column column) values)
  | isBetween {low high : Json} {lowExpr highExpr : Expr}
      (lower : operandExpr low field? column = .ok lowExpr)
      (upper : operandExpr high field? column = .ok highExpr) :
      Compiles field? column .isBetween (.array [low, high])
        (.between (.column column) lowExpr highExpr)
  | isNull {flag : Bool} :
      Compiles field? column .isNull (.bool flag) (.nullCheck (.column column) flag)
  | isMissing {flag : Bool} :
      Compiles field? column .isMissing (.bool flag) (missingCondition column flag)
  | startsWith {text : String} : Compiles field? column .startsWith (.string text)
      (.startsWith (textExpr column) (.parameter (.plain (.string text))))
  | containsText {text : String} : Compiles field? column .contains (.string text)
      (.containsText (textExpr column) (.parameter (.plain (.string text))))
  | containsItems {items : List Json} : Compiles field? column .contains (.array items)
      (.compare (.column column) .contains (.parameter (.json (.array items))))
  | containsMembers {members : Members} : Compiles field? column .contains (.object members)
      (.compare (.column column) .contains (.parameter (.json (.object members))))

variable {operator : FilterOperator} {value : Json} {field? : Option Field} {column : ColumnRef}
  {path : String} {condition : Condition}

/-- A flag is the operand itself. -/
theorem eq_bool_of_flagOperand {flag : Bool} (h : flagOperand value path = .ok flag) :
    value = .bool flag := by
  cases value with
  | bool known => exact congrArg Json.bool (Except.ok.inj h)
  | null | number _ | string _ | array _ | object _ => cases h

/-- Every condition of an operator is one that the operator is compiled to. -/
theorem compiles_of_condition (h : operator.condition value field? column path = .ok condition) :
    operator.Compiles field? column value condition := by
  have compared : ∀ {comparison : Sql.Comparison}, operator.comparison? = some comparison →
      (value = .null → operator ≠ .equal ∧ operator ≠ .notEqual) →
      (Condition.compare (.column column) comparison <$> operandExpr value field? column) =
          .ok condition → operator.Compiles field? column value condition := by
    intro comparison hnamed hordered h
    obtain ⟨right, hright, rfl⟩ := map_eq_ok_iff.1 h
    exact .compare hnamed hordered hright
  unfold FilterOperator.condition at h
  cases operator with
  | equal =>
    cases value with
    | null =>
      cases h
      exact .equalNull
    | bool _ | number _ | string _ | array _ | object _ => exact compared rfl (by simp) h
  | notEqual =>
    cases value with
    | null =>
      cases h
      exact .notEqualNull
    | bool _ | number _ | string _ | array _ | object _ => exact compared rfl (by simp) h
  | greater | greaterOrEqual | less | lessOrEqual => exact compared rfl (by simp) h
  | isIn =>
    cases value with
    | array items =>
      obtain ⟨values, hvalues, rfl⟩ := map_eq_ok_iff.1 h
      exact .isIn (forall₂_of_mapM_eq_ok hvalues)
    | null | bool _ | number _ | string _ | object _ => cases h
  | isBetween =>
    simp only at h
    split at h
    · simp only [bind_eq_ok_iff, pure_eq_ok_iff] at h
      obtain ⟨low, hlow, high, hhigh, rfl⟩ := h
      exact .isBetween hlow hhigh
    · cases h
  | isNull =>
    obtain ⟨flag, hflag, rfl⟩ := map_eq_ok_iff.1 h
    rw [eq_bool_of_flagOperand hflag]
    exact .isNull
  | isMissing =>
    obtain ⟨flag, hflag, rfl⟩ := map_eq_ok_iff.1 h
    rw [eq_bool_of_flagOperand hflag]
    exact .isMissing
  | startsWith =>
    cases value with
    | string text =>
      cases h
      exact .startsWith
    | null | bool _ | number _ | array _ | object _ => cases h
  | contains =>
    cases value with
    | string text =>
      cases h
      exact .containsText
    | array items =>
      cases h
      exact .containsItems
    | object members =>
      cases h
      exact .containsMembers
    | null | bool _ | number _ => cases h

end FilterOperator

section

variable {column : ColumnRef}

/-- An operand is a value. -/
theorem operandExpr_isValue {value : Json} {field? : Option Field} {expr : Expr}
    (h : operandExpr value field? column = .ok expr) : expr.IsValue := by
  obtain ⟨-, rfl⟩ | ⟨-, parameter, rfl, -⟩ := operandExpr_cases h
  · exact .null
  · exact .parameter

theorem missingCondition_isPredicate (column : ColumnRef) (isMissing : Bool) :
    (missingCondition column isMissing).IsPredicate column.qualifier? column.name := by
  unfold missingCondition
  cases column.path.getLast? with
  | none => exact .nullCheck
  | some key =>
    cases isMissing with
    | false => exact .hasKey
    | true => exact .lacksKey

/-- The condition of an operator tests the column. -/
theorem operatorCondition_isPredicate {operator : FilterOperator} {value : Json}
    {field? : Option Field} {path : String} {condition : Condition}
    (h : operator.condition value field? column path = .ok condition) :
    condition.IsPredicate column.qualifier? column.name := by
  cases FilterOperator.compiles_of_condition h with
  | equalNull | notEqualNull | isNull => exact .nullCheck
  | compare _ _ operand => exact .compare (operandExpr_isValue operand)
  | isIn operands =>
    refine .inList fun expr hexpr => ?_
    obtain ⟨item, -, hitem⟩ := exists_mem_of_forall₂ operands hexpr
    exact operandExpr_isValue hitem
  | isBetween lower upper =>
    exact .between (operandExpr_isValue lower) (operandExpr_isValue upper)
  | @isMissing flag => exact missingCondition_isPredicate column flag
  | startsWith => exact .startsWith
  | containsText => exact .containsText
  | containsItems | containsMembers => exact .compare .parameter

mutual

/-- The conditions of the entry of a column test the column. -/
theorem predicates_isPredicate : ∀ {field? : Option Field} {column : ColumnRef} {path : String}
    {value : Json} {conditions : List Condition},
      predicates field? column path value = .ok conditions →
        ∀ condition ∈ conditions, condition.IsPredicate column.qualifier? column.name
  | field?, column, path, .null, conditions, h => by
    rw [predicates, Except.ok.injEq] at h
    rw [← h, List.forall_mem_singleton]
    exact .nullCheck
  | field?, column, path, .object members, conditions, h => by
    rw [predicates] at h
    exact memberPredicates_isPredicate h
  | field?, column, path, .array items, conditions, h => by
    rw [predicates] at h
    split at h
    · simp only [bind_eq_ok_iff, pure_eq_ok_iff] at h
      obtain ⟨right, hright, rfl⟩ := h
      rw [List.forall_mem_singleton]
      exact .compare (operandExpr_isValue hright)
    · simp at h
  | field?, column, path, .bool _, conditions, h
  | field?, column, path, .number _, conditions, h
  | field?, column, path, .string _, conditions, h => by
    simp only [predicates, bind_eq_ok_iff, pure_eq_ok_iff] at h
    obtain ⟨right, hright, rfl⟩ := h
    rw [List.forall_mem_singleton]
    exact .compare (operandExpr_isValue hright)

/-- The conditions of the members of an entry test the column. -/
theorem memberPredicates_isPredicate : ∀ {field? : Option Field} {column : ColumnRef}
    {path : String} {members : List (String × Json)} {conditions : List Condition},
    memberPredicates field? column path members = .ok conditions →
      ∀ condition ∈ conditions, condition.IsPredicate column.qualifier? column.name
  | field?, column, path, [], conditions, h => by
    rw [memberPredicates, Except.ok.injEq] at h
    rw [← h]
    exact List.forall_mem_nil _
  | field?, column, path, (key, value) :: rest, conditions, h => by
    rw [memberPredicates] at h
    cases hkey : PredicateKey.ofKey field? key with
    | nested child? =>
      simp only [hkey, bind_eq_ok_iff, pure_eq_ok_iff] at h
      obtain ⟨first, hfirst, others, hothers, rfl⟩ := h
      rw [List.forall_mem_append]
      -- A key inside the column is read as a part of the column.
      have hinside := predicates_isPredicate hfirst
      exact ⟨hinside, memberPredicates_isPredicate hothers⟩
    | operator operator =>
      simp only [hkey, bind_eq_ok_iff, pure_eq_ok_iff] at h
      obtain ⟨condition, hcondition, _, rfl, others, hothers, rfl⟩ := h
      rw [List.forall_mem_append, List.forall_mem_singleton]
      exact ⟨operatorCondition_isPredicate hcondition, memberPredicates_isPredicate hothers⟩
    | unexpected | unknownOperator => simp [hkey, bind, Except.bind] at h

end

end

namespace Table

variable {table : Table} {scope? : Option String} {path key : String} {value : Json}
  {conditions : List Condition}

/-- The conditions of the entry of a column test the column, which belongs to the table. -/
theorem columnConditions_isPredicate
    (h : table.columnConditions scope? path key value = .ok conditions) :
    table.schema.contains key = true ∧
      ∀ condition ∈ conditions, condition.IsPredicate scope? key := by
  simp only [columnConditions, bind_eq_ok_iff] at h
  obtain ⟨field, hfield, h⟩ := h
  exact ⟨ObjectSchema.contains_of_field hfield, predicates_isPredicate h⟩

/-- The conditions of the entry of a column read the column, which belongs to the table. -/
theorem columnConditions_onColumn
    (h : table.columnConditions scope? path key value = .ok conditions) :
    table.schema.contains key = true ∧
      ∀ condition ∈ conditions, condition.OnColumn scope? key := by
  obtain ⟨hkey, hconditions⟩ := columnConditions_isPredicate h
  exact ⟨hkey, fun condition hcondition => (hconditions condition hcondition).onColumn⟩

end Table

end RelationalQuery
