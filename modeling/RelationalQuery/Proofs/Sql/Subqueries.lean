import RelationalQuery.Proofs.Sql.OnColumn

/-!
# Subqueries of expressions

A subquery may stand wherever an expression stands: in the values of an object, under an aggregate,
in conditions, or in the selection of another subquery.

Main definitions:

- `Expr.subqueries`, `Condition.subqueries` and `Select.subqueries` are all subqueries that stand as
  expressions, each before those inside of it.

Main results:

- `Expr.OnColumn.subqueries_eq_nil` and `Condition.OnColumn.subqueries_eq_nil`: what reads a column
  has no subqueries.
- `Condition.subqueries_andAlso` and its companions: conditions that are put together have the
  subqueries of their parts.
-/

namespace RelationalQuery.Sql

mutual

/-- The subqueries of an expression, each before those inside of it. -/
def Expr.subqueries : Expr → List Select
  | .cast value _ => value.subqueries
  | .object entries => Expr.entrySubqueries entries
  | .aggregate value order => value.subqueries ++ OrderTerm.listSubqueries order
  | .merge _ entries => Expr.entrySubqueries entries
  | .subquery query => query :: query.subqueries
  | .null | .parameter _ | .column _ | .columnText _ | .reference _ _ | .operation _ _ _ _
  | .raw _ => []

/-- The subqueries of the values of entries. -/
def Expr.entrySubqueries : List (String × Expr) → List Select
  | [] => []
  | (_, value) :: rest => value.subqueries ++ Expr.entrySubqueries rest

/-- The subqueries of a list of expressions. -/
def Expr.listSubqueries : List Expr → List Select
  | [] => []
  | expr :: rest => expr.subqueries ++ Expr.listSubqueries rest

/-- The subqueries of the keys of an order. -/
def OrderTerm.listSubqueries : List OrderTerm → List Select
  | [] => []
  | ⟨expr, _⟩ :: rest => expr.subqueries ++ OrderTerm.listSubqueries rest

/-- The subqueries of the columns of a result. -/
def Projection.listSubqueries : List Projection → List Select
  | [] => []
  | ⟨expr, _⟩ :: rest => expr.subqueries ++ Projection.listSubqueries rest

/-- The subqueries of the expressions inside a condition. -/
def Condition.subqueries : Condition → List Select
  | .and conditions => Condition.listSubqueries conditions
  | .or conditions => Condition.listSubqueries conditions
  | .not condition => condition.subqueries
  | .compare left _ right => left.subqueries ++ right.subqueries
  | .nullCheck expr _ => expr.subqueries
  | .inList expr values => expr.subqueries ++ Expr.listSubqueries values
  | .between expr low high => expr.subqueries ++ low.subqueries ++ high.subqueries
  | .startsWith expr lead => expr.subqueries ++ lead.subqueries
  | .containsText expr needle => expr.subqueries ++ needle.subqueries
  | .exists query _ => query.subqueries
  | .hasKey _ _ | .raw _ => []

/-- The subqueries of the expressions inside a list of conditions. -/
def Condition.listSubqueries : List Condition → List Select
  | [] => []
  | condition :: rest => condition.subqueries ++ Condition.listSubqueries rest

/-- The subqueries of the expressions inside a clause of rows. -/
def FromItem.subqueries : FromItem → List Select
  | .subquery query _ => query.subqueries
  | .table _ _ | .unionAll _ _ => []

/-- The subqueries of the rows of a selection, if it has rows. -/
def FromItem.clauseSubqueries : Option FromItem → List Select
  | none => []
  | some item => item.subqueries

/-- The subqueries of a condition, if there is one. -/
def Condition.clauseSubqueries : Option Condition → List Select
  | none => []
  | some condition => condition.subqueries

/-- The subqueries of all expressions of a selection. -/
def Select.subqueries : Select → List Select
  | ⟨columns, from?, where?, order, _, _⟩ =>
    Projection.listSubqueries columns ++ FromItem.clauseSubqueries from? ++
      Condition.clauseSubqueries where? ++ OrderTerm.listSubqueries order

end

/-! ## Lists of parts -/

/-- The subqueries of entries are those of their values. -/
theorem Expr.entrySubqueries_eq_flatMap (entries : List (String × Expr)) :
    Expr.entrySubqueries entries = entries.flatMap fun entry => entry.2.subqueries := by
  induction entries with
  | nil => rfl
  | cons entry rest ih => rw [Expr.entrySubqueries, ih, List.flatMap_cons]

/-- The subqueries of a list are those of its members. -/
theorem Expr.listSubqueries_eq_flatMap (exprs : List Expr) :
    Expr.listSubqueries exprs = exprs.flatMap Expr.subqueries := by
  induction exprs with
  | nil => rfl
  | cons expr rest ih => rw [Expr.listSubqueries, ih, List.flatMap_cons]

/-- The subqueries of an order are those of its terms. -/
theorem OrderTerm.listSubqueries_eq_flatMap (order : List OrderTerm) :
    OrderTerm.listSubqueries order = order.flatMap fun term => term.expr.subqueries := by
  induction order with
  | nil => rfl
  | cons term rest ih =>
    obtain ⟨expr, direction⟩ := term
    rw [OrderTerm.listSubqueries, ih, List.flatMap_cons]

/-- The subqueries of columns are those of their expressions. -/
theorem Projection.listSubqueries_eq_flatMap (columns : List Projection) :
    Projection.listSubqueries columns = columns.flatMap fun column => column.expr.subqueries := by
  induction columns with
  | nil => rfl
  | cons column rest ih =>
    obtain ⟨expr, label?⟩ := column
    rw [Projection.listSubqueries, ih, List.flatMap_cons]

/-- The subqueries of conditions are those of each of them. -/
theorem Condition.listSubqueries_eq_flatMap (conditions : List Condition) :
    Condition.listSubqueries conditions = conditions.flatMap Condition.subqueries := by
  induction conditions with
  | nil => rfl
  | cons condition rest ih => rw [Condition.listSubqueries, ih, List.flatMap_cons]

/-- An order by keys without subqueries has none. -/
theorem OrderTerm.listSubqueries_eq_nil {order : List OrderTerm}
    (plain : ∀ term ∈ order, term.expr.subqueries = []) : OrderTerm.listSubqueries order = [] := by
  rw [listSubqueries_eq_flatMap, List.flatMap_eq_nil_iff]
  exact plain

/-! ## Expressions and conditions on a column -/

section

variable {qualifier? : Option String} {name : String}

/-- An expression on a column has no subqueries. -/
theorem Expr.OnColumn.subqueries_eq_nil {expr : Expr} (h : expr.OnColumn qualifier? name) :
    expr.subqueries = [] := by
  induction h with
  | null | parameter | column | columnText | operation | raw => rw [Expr.subqueries]
  | cast _ ih => rw [Expr.subqueries, ih]
  | object _ ih | merge _ ih =>
    rw [Expr.subqueries, Expr.entrySubqueries_eq_flatMap, List.flatMap_eq_nil_iff]
    exact ih

/-- A condition on a column has no subqueries. -/
theorem Condition.OnColumn.subqueries_eq_nil {condition : Condition}
    (h : condition.OnColumn qualifier? name) : condition.subqueries = [] := by
  induction h with
  | not _ ih => rw [Condition.subqueries, ih]
  | compare first second | startsWith first second | containsText first second =>
    rw [Condition.subqueries, first.subqueries_eq_nil, second.subqueries_eq_nil, List.append_nil]
  | nullCheck inner => rw [Condition.subqueries, inner.subqueries_eq_nil]
  | inList inner members =>
    rw [Condition.subqueries, inner.subqueries_eq_nil, List.nil_append,
      Expr.listSubqueries_eq_flatMap, List.flatMap_eq_nil_iff]
    exact fun value hvalue => (members value hvalue).subqueries_eq_nil
  | between inner lower upper =>
    rw [Condition.subqueries, inner.subqueries_eq_nil, lower.subqueries_eq_nil,
      upper.subqueries_eq_nil, List.append_nil, List.append_nil]
  | hasKey => rw [Condition.subqueries]

end

/-! ## Conditions that are put together -/

namespace Condition

variable {conditions others : List Condition}

@[simp]
theorem listSubqueries_append :
    listSubqueries (conditions ++ others) = listSubqueries conditions ++ listSubqueries others := by
  simp only [listSubqueries_eq_flatMap, List.flatMap_append]

@[simp]
theorem listSubqueries_singleton (condition : Condition) :
    listSubqueries [condition] = condition.subqueries := by
  rw [listSubqueries, listSubqueries, List.append_nil]

theorem listSubqueries_parts (condition : Condition) :
    listSubqueries condition.parts = condition.subqueries := by
  unfold parts
  split
  · rw [subqueries]
  · rw [listSubqueries_singleton]

/-- A conjunction has the subqueries of its parts. -/
theorem subqueries_andAlso (left right : Condition) :
    (left.andAlso right).subqueries = left.subqueries ++ right.subqueries := by
  rw [andAlso, subqueries, listSubqueries_append, listSubqueries_parts, listSubqueries_parts]

/-- Conditions that are joined have the subqueries of each of them. -/
theorem clauseSubqueries_all (conditions : List Condition) :
    clauseSubqueries (all conditions) = listSubqueries conditions := by
  unfold all
  split
  · rw [clauseSubqueries, listSubqueries]
  · rw [clauseSubqueries, listSubqueries_singleton]
  · rw [clauseSubqueries, subqueries]

end Condition

end RelationalQuery.Sql
