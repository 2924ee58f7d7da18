import RelationalQuery.Proofs.Sql.Evaluation
import RelationalQuery.Proofs.Sql.Parameters

/-!
# Qualified columns

A statement that reads a single table can name the table before its columns or leave the name out.
Qualification puts the name before every column that has no qualifier.  Subqueries are left as they
are, since they name their own rows.

Main definitions:

- `Expr.qualify` and `Condition.qualify` qualify the columns of a tree outside of its subqueries.

Main results:

- `Condition.parameters_qualify`: the bound parameters stay, in their order.
- `Condition.eval_qualify`: on the rows of the table a condition keeps its truth value.
-/

namespace RelationalQuery.Sql

/-! ## Qualification -/

/-- The column as one of the given table, unless it has a qualifier. -/
def ColumnRef.qualify (name : String) (column : ColumnRef) : ColumnRef :=
  { column with qualifier? := column.qualifier?.or (some name) }

@[simp]
theorem ColumnRef.path_qualify (name : String) (column : ColumnRef) :
    (column.qualify name).path = column.path :=
  rfl

mutual

/-- The expression with its columns qualified. -/
def Expr.qualify (name : String) : Expr → Expr
  | .null => .null
  | .parameter value => .parameter value
  | .column column => .column (column.qualify name)
  | .columnText column => .columnText (column.qualify name)
  | .reference source column => .reference source column
  | .operation target operator operand numericType =>
    .operation (target.qualify name) operator operand numericType
  | .cast value type => .cast (value.qualify name) type
  | .object entries => .object (Expr.qualifyEntries name entries)
  | .aggregate value order => .aggregate (value.qualify name) (OrderTerm.qualifyList name order)
  | .merge target entries => .merge (target.qualify name) (Expr.qualifyEntries name entries)
  | .subquery query => .subquery query
  | .raw text => .raw text

/-- Entries with the columns of their values qualified. -/
def Expr.qualifyEntries (name : String) : List (String × Expr) → List (String × Expr)
  | [] => []
  | (key, value) :: rest => (key, value.qualify name) :: Expr.qualifyEntries name rest

/-- The keys of an order with their columns qualified. -/
def OrderTerm.qualifyList (name : String) : List OrderTerm → List OrderTerm
  | [] => []
  | ⟨expr, direction⟩ :: rest => ⟨expr.qualify name, direction⟩ :: OrderTerm.qualifyList name rest

end

mutual

/-- The condition with its columns qualified. -/
def Condition.qualify (name : String) : Condition → Condition
  | .and conditions => .and (Condition.qualifyList name conditions)
  | .or conditions => .or (Condition.qualifyList name conditions)
  | .not condition => .not (condition.qualify name)
  | .compare left comparison right => .compare (left.qualify name) comparison (right.qualify name)
  | .nullCheck expr isNull => .nullCheck (expr.qualify name) isNull
  | .inList expr values => .inList (expr.qualify name) (values.map (Expr.qualify name))
  | .between expr low high =>
    .between (expr.qualify name) (low.qualify name) (high.qualify name)
  | .startsWith expr lead => .startsWith (expr.qualify name) (lead.qualify name)
  | .containsText expr needle => .containsText (expr.qualify name) (needle.qualify name)
  | .hasKey column key => .hasKey (column.qualify name) key
  | .exists query negated => .exists query negated
  | .raw text => .raw text

/-- Conditions with their columns qualified. -/
def Condition.qualifyList (name : String) : List Condition → List Condition
  | [] => []
  | condition :: rest => condition.qualify name :: Condition.qualifyList name rest

end

theorem Condition.qualifyList_eq_map (name : String) (conditions : List Condition) :
    qualifyList name conditions = conditions.map (qualify name) := by
  induction conditions with
  | nil => rfl
  | cons condition rest ih => rw [qualifyList, ih, List.map_cons]

/-! ## Parameters -/

section

variable (name : String)

mutual

/-- A qualified expression binds the same parameters. -/
theorem Expr.parameters_qualify : ∀ expr : Expr, (expr.qualify name).parameters = expr.parameters
  | .null | .parameter _ | .column _ | .columnText _ | .reference _ _ | .operation _ _ _ _
  | .subquery _ | .raw _ => by
    simp only [Expr.qualify, Expr.parameters]
  | .cast value _ => by
    rw [Expr.qualify, Expr.parameters, Expr.parameters, Expr.parameters_qualify value]
  | .object entries => by
    rw [Expr.qualify, Expr.parameters, Expr.parameters, Expr.parameters_qualifyEntries entries]
  | .aggregate value order => by
    rw [Expr.qualify, Expr.parameters, Expr.parameters, Expr.parameters_qualify value,
      OrderTerm.parameters_qualifyList order]
  | .merge _ entries => by
    rw [Expr.qualify, Expr.parameters, Expr.parameters, Expr.parameters_qualifyEntries entries]

/-- So do entries. -/
theorem Expr.parameters_qualifyEntries : ∀ entries : List (String × Expr),
    Expr.entryParameters (Expr.qualifyEntries name entries) = Expr.entryParameters entries
  | [] => rfl
  | (_, value) :: rest => by
    rw [Expr.qualifyEntries, Expr.entryParameters, Expr.entryParameters,
      Expr.parameters_qualify value, Expr.parameters_qualifyEntries rest]

/-- So do the terms of an order. -/
theorem OrderTerm.parameters_qualifyList : ∀ order : List OrderTerm,
    OrderTerm.listParameters (OrderTerm.qualifyList name order) = OrderTerm.listParameters order
  | [] => rfl
  | ⟨expr, _⟩ :: rest => by
    rw [OrderTerm.qualifyList, OrderTerm.listParameters, OrderTerm.listParameters,
      Expr.parameters_qualify expr, OrderTerm.parameters_qualifyList rest]

end

theorem Expr.listParameters_map_qualify (exprs : List Expr) :
    Expr.listParameters (exprs.map (Expr.qualify name)) = Expr.listParameters exprs := by
  induction exprs with
  | nil => rfl
  | cons expr rest ih =>
    rw [List.map_cons, listParameters, listParameters, parameters_qualify, ih]

mutual

/-- A qualified condition binds the same parameters. -/
theorem Condition.parameters_qualify : ∀ condition : Condition,
    (condition.qualify name).parameters = condition.parameters
  | .and conditions => by
    rw [Condition.qualify, Condition.parameters, Condition.parameters,
      Condition.listParameters_qualifyList conditions]
  | .or conditions => by
    rw [Condition.qualify, Condition.parameters, Condition.parameters,
      Condition.listParameters_qualifyList conditions]
  | .not condition => by
    rw [Condition.qualify, Condition.parameters, Condition.parameters,
      Condition.parameters_qualify condition]
  | .inList expr [] => rfl
  | .inList expr (value :: values) => by
    rw [Condition.qualify, List.map_cons, Condition.parameters, Condition.parameters,
      Expr.parameters_qualify, Expr.parameters_qualify, Expr.listParameters_map_qualify]
  | .compare _ _ _ | .nullCheck _ _ | .between _ _ _ | .startsWith _ _ | .containsText _ _ => by
    simp only [Condition.qualify, Condition.parameters, Expr.parameters_qualify]
  | .hasKey _ _ | .exists _ _ | .raw _ => by
    simp only [Condition.qualify, Condition.parameters]

/-- So do conditions. -/
theorem Condition.listParameters_qualifyList : ∀ conditions : List Condition,
    Condition.listParameters (Condition.qualifyList name conditions) =
      Condition.listParameters conditions
  | [] => rfl
  | condition :: rest => by
    rw [Condition.qualifyList, Condition.listParameters, Condition.listParameters,
      Condition.parameters_qualify condition, Condition.listParameters_qualifyList rest]

end

end

/-! ## Values on the rows of the table -/

section

variable {V : Type} {I : Interpretation V} {db : Database V} {item : Item V}

/-- With a single item in scope a column is read from it with and without its name. -/
theorem Scope.resolve_or_name (item : Item V) (qualifier? : Option String) (column : String) :
    Scope.resolve [[item]] (qualifier?.or (some item.name)) column =
      Scope.resolve [[item]] qualifier? column := by
  cases qualifier? with
  | some qualifier => rfl
  | none =>
    have hnamed : Scope.resolve [[item]] (some item.name) column = item.column? column :=
      resolve_push_self [] item column
    rw [Option.none_or, hnamed]
    cases hvalue : item.column? column with
    | none => simp [resolve, plain?, hvalue]
    | some value =>
      have hplain : Scope.resolve [[item]] none column = some value := resolve_push_none hvalue
      exact hplain.symm

mutual

/-- A qualified expression has the same value on the rows of the table. -/
theorem Expr.eval_qualify : ∀ expr : Expr,
    (expr.qualify item.name).eval I db none [[item]] = expr.eval I db none [[item]]
  | .column target => by
    simp only [Expr.qualify, Expr.eval, ColumnRef.qualify, Scope.resolve_or_name]
  | .columnText target => by
    simp only [Expr.qualify, Expr.eval, ColumnRef.qualify, Scope.resolve_or_name]
  | .object entries => by
    rw [Expr.qualify, Expr.eval, Expr.eval, Expr.evalEntries_qualifyEntries entries]
  | .null | .parameter _ | .reference _ _ | .operation _ _ _ _ | .cast _ _ | .aggregate _ _
  | .merge _ _ | .subquery _ | .raw _ => by
    simp only [Expr.qualify, Expr.eval]

/-- So are entries. -/
theorem Expr.evalEntries_qualifyEntries : ∀ entries : List (String × Expr),
    Expr.evalEntries I db (Expr.qualifyEntries item.name entries) none [[item]] =
      Expr.evalEntries I db entries none [[item]]
  | [] => rfl
  | (_, value) :: rest => by
    rw [Expr.qualifyEntries, Expr.evalEntries, Expr.evalEntries, Expr.eval_qualify value,
      Expr.evalEntries_qualifyEntries rest]

end

/-- Qualified expressions have the values of the plain ones. -/
theorem Expr.evalList_map_qualify (exprs : List Expr) :
    Expr.evalList I db (exprs.map (Expr.qualify item.name)) [[item]] =
      Expr.evalList I db exprs [[item]] := by
  induction exprs with
  | nil => rfl
  | cons expr rest ih => rw [List.map_cons, evalList, evalList, eval_qualify, ih]

mutual

/-- A qualified condition has the same truth value on the rows of the table. -/
theorem Condition.eval_qualify : ∀ condition : Condition,
    (condition.qualify item.name).eval I db [[item]] = condition.eval I db [[item]]
  | .and conditions => by
    rw [Condition.qualify, Condition.eval, Condition.eval,
      Condition.evalList_qualifyList conditions]
  | .or conditions => by
    rw [Condition.qualify, Condition.eval, Condition.eval,
      Condition.evalList_qualifyList conditions]
  | .not condition => by
    rw [Condition.qualify, Condition.eval, Condition.eval, Condition.eval_qualify condition]
  | .inList expr [] => rfl
  | .inList expr (value :: values) => by
    rw [Condition.qualify, List.map_cons, Condition.eval, Condition.eval, Expr.eval_qualify,
      Expr.eval_qualify, Expr.evalList_map_qualify]
  | .compare _ _ _ | .nullCheck _ _ | .between _ _ _ | .startsWith _ _ | .containsText _ _ => by
    simp only [Condition.qualify, Condition.eval, Expr.eval_qualify]
  | .hasKey column key => by
    simp only [Condition.qualify, Condition.eval, ColumnRef.qualify, Scope.resolve_or_name]
  | .exists _ _ | .raw _ => by
    rw [Condition.qualify]

/-- So are conditions. -/
theorem Condition.evalList_qualifyList : ∀ conditions : List Condition,
    Condition.evalList I db (Condition.qualifyList item.name conditions) [[item]] =
      Condition.evalList I db conditions [[item]]
  | [] => rfl
  | condition :: rest => by
    rw [Condition.qualifyList, Condition.evalList, Condition.evalList,
      Condition.eval_qualify condition, Condition.evalList_qualifyList rest]

end

end

end RelationalQuery.Sql
