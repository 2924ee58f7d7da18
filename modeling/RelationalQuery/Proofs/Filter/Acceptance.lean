import RelationalQuery.Filter.Basic
import RelationalQuery.Proofs.Computation

/-!
# Which filters are accepted

Whether a filter is accepted is decided by the filter and the tables alone: neither the aliases that
were handed out before it nor the name of the rows that it is put on play a part.

Main definitions:

- `FilterContext.Accepts` says that a filter is accepted over a table.

Main results:

- `FilterOperator.succeeds_condition`, `succeeds_predicates`: predicates on a column are accepted
  for every qualifier of the column.
- `FilterContext.succeedsIff_condition`: whether a filter is accepted depends on neither the state
  nor the scope.
-/

namespace RelationalQuery

open Sql (ColumnRef)

/-! ## Columns -/

section

variable {column other : ColumnRef} {field? : Option Field}

/-- An operand is bound by what it is compared with, whatever rows that belongs to. -/
theorem operandExpr_congr (same : column.path = other.path) (value : Json) :
    operandExpr value field? column = operandExpr value field? other := by
  unfold operandExpr
  rw [same]

/-- An operator is accepted for every qualifier of its column. -/
theorem FilterOperator.succeeds_condition (same : column.path = other.path)
    {operator : FilterOperator} {value : Json} {path : String}
    (h : Succeeds (operator.condition value field? column path)) :
    Succeeds (operator.condition value field? other path) := by
  have hoperand : ∀ value, operandExpr value field? column = operandExpr value field? other :=
    operandExpr_congr same
  unfold condition at h ⊢
  cases operator with
  | equal | notEqual =>
    simp only at h ⊢
    split at h
    · rename_i hnull
      rw [if_pos hnull]
      exact succeeds_ok
    · rename_i hvalue
      rw [if_neg hvalue]
      rwa [succeeds_map, ← hoperand, ← succeeds_map]
  | greater | greaterOrEqual | less | lessOrEqual =>
    rwa [succeeds_map, ← hoperand, ← succeeds_map]
  | isIn =>
    simp only at h ⊢
    split at h
    · simp only [succeeds_map, succeeds_mapM, hoperand] at h ⊢
      exact h
    · simp at h
  | isBetween =>
    simp only at h ⊢
    split at h
    · simp only [succeeds_bind, hoperand] at h ⊢
      obtain ⟨low, hlow, high, hhigh, -⟩ := h
      exact ⟨low, hlow, high, hhigh, succeeds_pure⟩
    · simp at h
  | isNull | isMissing =>
    simp only [succeeds_map] at h ⊢
    exact h
  | startsWith | contains =>
    simp only at h ⊢
    split at h
    all_goals first | exact succeeds_ok | simp at h

mutual

/-- The entry of a column is accepted for every qualifier of the column. -/
theorem succeeds_predicates : ∀ {field? : Option Field} {column other : ColumnRef} {path : String}
    {value : Json}, column.path = other.path → Succeeds (predicates field? column path value) →
      Succeeds (predicates field? other path value)
  | field?, column, other, path, .null, same, h => by
    rw [predicates]
    exact succeeds_ok
  | field?, column, other, path, .object members, same, h => by
    rw [predicates] at h ⊢
    exact succeeds_memberPredicates same h
  | field?, column, other, path, .array items, same, h => by
    rw [predicates] at h ⊢
    rw [← same]
    split at h
    · rename_i hallowed
      rw [if_pos hallowed, succeeds_bind_pure, ← operandExpr_congr same]
      exact succeeds_bind_pure.1 h
    · simp at h
  | field?, column, other, path, .bool _, same, h
  | field?, column, other, path, .number _, same, h
  | field?, column, other, path, .string _, same, h => by
    simp only [predicates, succeeds_bind_pure] at h ⊢
    rwa [← operandExpr_congr same]

/-- The members of an entry are accepted for every qualifier of the column. -/
theorem succeeds_memberPredicates : ∀ {field? : Option Field} {column other : ColumnRef}
    {path : String} {members : List (String × Json)}, column.path = other.path →
      Succeeds (memberPredicates field? column path members) →
        Succeeds (memberPredicates field? other path members)
  | field?, column, other, path, [], same, h => by
    rw [memberPredicates]
    exact succeeds_ok
  | field?, column, other, path, (key, value) :: rest, same, h => by
    rw [memberPredicates] at h ⊢
    cases hkey : PredicateKey.ofKey field? key with
    | nested child? =>
      have hinside : (column.key key).path = (other.key key).path := by
        simp [ColumnRef.key, same]
      simp only [hkey] at h ⊢
      rw [succeeds_bind_iff fun _ => succeeds_bind_pure] at h ⊢
      exact ⟨succeeds_predicates hinside h.1, succeeds_memberPredicates same h.2⟩
    | operator operator =>
      simp only [hkey, pure_bind] at h ⊢
      rw [succeeds_bind_iff fun _ => succeeds_bind_pure] at h ⊢
      exact ⟨FilterOperator.succeeds_condition same h.1, succeeds_memberPredicates same h.2⟩
    | unexpected | unknownOperator => simp [hkey, succeeds_bind] at h

end

end

/-- The entry of a column is accepted for every scope. -/
theorem Table.succeeds_columnConditions {table : Table} {scope? other? : Option String}
    {path key : String} {value : Json}
    (h : Succeeds (table.columnConditions scope? path key value)) :
    Succeeds (table.columnConditions other? path key value) := by
  simp only [columnConditions, succeeds_bind] at h ⊢
  obtain ⟨field, hfield, h⟩ := h
  have same : (⟨scope?, key, []⟩ : ColumnRef).path = (⟨other?, key, []⟩ : ColumnRef).path := rfl
  exact ⟨field, hfield, succeeds_predicates same h⟩

/-! ## Filters -/

namespace FilterContext

variable {context : FilterContext}

mutual

/-- The entries of a filter are accepted from every state and for every scope. -/
theorem enables_memberConditions : ∀ {table : Table} {scope? other? : Option String}
    {path : String} {members : List (String × Json)},
    Enables (context.memberConditions table scope? path members)
      (context.memberConditions table other? path members)
  | table, scope?, other?, path, [] => by
    simp only [memberConditions]
    exact enables_pure
  | table, scope?, other?, path, (key, value) :: rest => by
    simp only [memberConditions]
    exact .bind enables_entryConditions fun _ _ => .bind enables_memberConditions fun _ _ =>
      enables_pure

/-- An entry of a filter is accepted from every state and for every scope. -/
theorem enables_entryConditions : ∀ {table : Table} {scope? other? : Option String}
    {path key : String} {kind : FilterEntry} {value : Json},
    Enables (context.entryConditions table scope? path key kind value)
      (context.entryConditions table other? path key kind value)
  | table, scope?, other?, path, key, .group isDisjunction, .array items => by
    simp only [entryConditions]
    exact .bind enables_itemConditions fun _ _ => enables_pure
  | table, scope?, other?, path, key, .group isDisjunction, .object members => by
    simp only [entryConditions]
    exact .bind enables_memberConditions fun _ _ => enables_pure
  | table, scope?, other?, path, key, .negation, .object members => by
    simp only [entryConditions]
    exact .bind enables_memberConditions fun _ _ => enables_pure
  | table, scope?, other?, path, key, .relation relation, .null => by
    simp only [entryConditions]
    exact .bind enables_fresh fun _ _ => .bind_monadLift fun _ _ => enables_pure
  | table, scope?, other?, path, key, .relation relation, .object members => by
    simp only [entryConditions]
    exact .bind enables_fresh fun _ _ => .bind_monadLift fun _ _ =>
      .bind enables_memberConditions fun _ _ => enables_pure
  | table, scope?, other?, path, key, .column, value => by
    simp only [entryConditions]
    exact enables_monadLift Table.succeeds_columnConditions
  | table, scope?, other?, path, key, .group isDisjunction, .null
  | table, scope?, other?, path, key, .group isDisjunction, .bool _
  | table, scope?, other?, path, key, .group isDisjunction, .number _
  | table, scope?, other?, path, key, .group isDisjunction, .string _
  | table, scope?, other?, path, key, .negation, .null
  | table, scope?, other?, path, key, .negation, .bool _
  | table, scope?, other?, path, key, .negation, .number _
  | table, scope?, other?, path, key, .negation, .string _
  | table, scope?, other?, path, key, .negation, .array _ => by
    simp only [entryConditions]
    exact enables_throw
  | table, scope?, other?, path, key, .relation relation, .bool _
  | table, scope?, other?, path, key, .relation relation, .number _
  | table, scope?, other?, path, key, .relation relation, .string _
  | table, scope?, other?, path, key, .relation relation, .array _ => by
    simp only [entryConditions]
    exact .bind enables_fresh fun _ _ => .bind_monadLift fun _ _ => enables_throw

/-- The filters of a group are accepted from every state and for every scope. -/
theorem enables_itemConditions : ∀ {table : Table} {scope? other? : Option String}
    {path : String} {index : Nat} {items : List Json},
    Enables (context.itemConditions table scope? path index items)
      (context.itemConditions table other? path index items)
  | table, scope?, other?, path, index, [] => by
    simp only [itemConditions]
    exact enables_pure
  | table, scope?, other?, path, index, .object members :: rest => by
    simp only [itemConditions]
    exact .bind enables_memberConditions fun _ _ => .bind enables_itemConditions fun _ _ =>
      enables_pure
  | table, scope?, other?, path, index, .null :: rest
  | table, scope?, other?, path, index, .bool _ :: rest
  | table, scope?, other?, path, index, .number _ :: rest
  | table, scope?, other?, path, index, .string _ :: rest
  | table, scope?, other?, path, index, .array _ :: rest => by
    simp only [itemConditions]
    exact enables_throw

end

/-- A filter that is accepted once is accepted from every state and for every scope. -/
theorem enables_condition {filter : Json} {table : Table} {scope? other? : Option String}
    {path : String} :
    Enables (context.condition filter table scope? path)
      (context.condition filter table other? path) := by
  cases filter with
  | object members =>
    simp only [condition]
    exact .bind enables_memberConditions fun _ _ => enables_pure
  | null | bool _ | number _ | string _ | array _ =>
    simp only [condition]
    exact enables_throw

/-- A filter is accepted over a table; errors name the entries below a path. -/
def Accepts (context : FilterContext) (filter : Json) (table : Table) (path : String) : Prop :=
  ∃ scope? n condition? m, Returns (context.condition filter table scope? path) n condition? m

/-- Whether a filter is accepted depends on neither the state nor the scope. -/
theorem succeedsIff_condition {filter : Json} {table : Table} {scope? : Option String}
    {path : String} :
    SucceedsIff (context.condition filter table scope? path) (context.Accepts filter table path) :=
  Enables.succeedsIff (context.condition filter table · path) (fun _ _ => enables_condition) scope?

end FilterContext

end RelationalQuery
