import RelationalQuery.Proofs.Sql.OnColumn

/-!
# Names that are shadowed

A subquery gives its rows a name, and its clauses also see the rows of the queries around it.  If one
of these has the same name, then the subquery hides it: a condition that should compare an inner row
with an outer one compares the inner row with itself.

Main definitions:

- `Expr.shadows`, `Condition.shadows` and `Select.shadows` are the names that subqueries at any depth
  give to their rows although rows around them have these names.
- `Statement.shadows` are these names in a statement.

Main results:

- `Select.mem_shadows`: where the names of a selection come from.
- `Condition.OnColumn.shadows_eq_nil`: conditions on a column hide nothing.
-/

namespace RelationalQuery.Sql

/-! ## Hidden names -/

mutual

/-- The names of outer rows that the subqueries of an expression hide. -/
def Expr.shadows (outer : List String) : Expr → List String
  | .cast value _ => value.shadows outer
  | .object entries => Expr.entryShadows outer entries
  | .aggregate value order => value.shadows outer ++ OrderTerm.listShadows outer order
  | .merge _ entries => Expr.entryShadows outer entries
  | .subquery query => query.shadows outer
  | .null | .parameter _ | .column _ | .columnText _ | .reference _ _ | .operation _ _ _ _
  | .raw _ => []

/-- The names of outer rows that the values of entries hide. -/
def Expr.entryShadows (outer : List String) : List (String × Expr) → List String
  | [] => []
  | (_, value) :: rest => value.shadows outer ++ Expr.entryShadows outer rest

/-- The names of outer rows that a list of expressions hides. -/
def Expr.listShadows (outer : List String) : List Expr → List String
  | [] => []
  | expr :: rest => expr.shadows outer ++ Expr.listShadows outer rest

/-- The names of outer rows that the keys of an order hide. -/
def OrderTerm.listShadows (outer : List String) : List OrderTerm → List String
  | [] => []
  | ⟨expr, _⟩ :: rest => expr.shadows outer ++ OrderTerm.listShadows outer rest

/-- The names of outer rows that the columns of a result hide. -/
def Projection.listShadows (outer : List String) : List Projection → List String
  | [] => []
  | ⟨expr, _⟩ :: rest => expr.shadows outer ++ Projection.listShadows outer rest

/-- The names of outer rows that the subqueries of a condition hide. -/
def Condition.shadows (outer : List String) : Condition → List String
  | .and conditions => Condition.listShadows outer conditions
  | .or conditions => Condition.listShadows outer conditions
  | .not condition => condition.shadows outer
  | .compare left _ right => left.shadows outer ++ right.shadows outer
  | .nullCheck expr _ => expr.shadows outer
  | .inList expr values => expr.shadows outer ++ Expr.listShadows outer values
  | .between expr low high => expr.shadows outer ++ low.shadows outer ++ high.shadows outer
  | .startsWith expr lead => expr.shadows outer ++ lead.shadows outer
  | .containsText expr needle => expr.shadows outer ++ needle.shadows outer
  | .exists query _ => query.shadows outer
  | .hasKey _ _ | .raw _ => []

/-- The names of outer rows that a list of conditions hides. -/
def Condition.listShadows (outer : List String) : List Condition → List String
  | [] => []
  | condition :: rest => condition.shadows outer ++ Condition.listShadows outer rest

/-- The names of outer rows that a clause of rows hides, by its own name or in a subquery.  A
subquery in this place does not see the rows of the clause. -/
def FromItem.clauseShadows (outer : List String) : Option FromItem → List String
  | none => []
  | some (.table name alias?) => outer.filter (· == alias?.getD name)
  | some (.subquery query label) => outer.filter (· == label) ++ query.shadows outer
  | some (.unionAll _ label) => outer.filter (· == label)

/-- The names of outer rows that a condition hides, if there is one. -/
def Condition.clauseShadows (outer : List String) : Option Condition → List String
  | none => []
  | some condition => condition.shadows outer

/-- The names of outer rows that a selection hides.  Its clauses see its own rows besides. -/
def Select.shadows (outer : List String) : Select → List String
  | ⟨columns, from?, where?, order, _, _⟩ =>
    let inner := (from?.map FromItem.scope).toList ++ outer
    FromItem.clauseShadows outer from? ++ Projection.listShadows inner columns ++
      Condition.clauseShadows inner where? ++ OrderTerm.listShadows inner order

end

/-- The names of rows that subqueries of a statement hide.  The clauses of a statement that changes
a table see its rows and those of the earlier statements that it reads. -/
def Statement.shadows : Statement → List String
  | .select s => s.shadows []
  | .insert s =>
    (s.record?.toList.flatMap fun record => Expr.entryShadows record.sources record.entries) ++
      Projection.listShadows s.table?.toList s.returning
  | .update s =>
    let rows := s.table?.toList ++ s.allSources
    (s.assignments.flatMap fun assignment => assignment.value.shadows rows) ++
      Condition.clauseShadows rows s.where? ++ Projection.listShadows rows s.returning
  | .delete s =>
    Condition.clauseShadows s.table?.toList s.where? ++
      Projection.listShadows s.table?.toList s.returning

attribute [local simp] Expr.shadows Expr.entryShadows Expr.listShadows OrderTerm.listShadows
  Projection.listShadows Condition.shadows Condition.listShadows Condition.clauseShadows
  Select.shadows

/-! ## Lists of parts -/

section

variable {name : String} {outer : List String}

/-- Entries hide what their values hide. -/
theorem Expr.mem_entryShadows {entries : List (String × Expr)} :
    name ∈ Expr.entryShadows outer entries ↔ ∃ entry ∈ entries, name ∈ entry.2.shadows outer := by
  induction entries with
  | nil => simp
  | cons entry rest ih => simp [ih]

/-- A list hides what its members hide. -/
theorem Expr.mem_listShadows {exprs : List Expr} :
    name ∈ Expr.listShadows outer exprs ↔ ∃ expr ∈ exprs, name ∈ expr.shadows outer := by
  induction exprs with
  | nil => simp
  | cons expr rest ih => simp [ih]

/-- An order hides what its terms hide. -/
theorem OrderTerm.mem_listShadows {order : List OrderTerm} :
    name ∈ OrderTerm.listShadows outer order ↔ ∃ term ∈ order, name ∈ term.expr.shadows outer := by
  induction order with
  | nil => simp
  | cons term rest ih =>
    obtain ⟨expr, direction⟩ := term
    simp [ih]

/-- Columns hide what their expressions hide. -/
theorem Projection.mem_listShadows {columns : List Projection} :
    name ∈ Projection.listShadows outer columns ↔
      ∃ column ∈ columns, name ∈ column.expr.shadows outer := by
  induction columns with
  | nil => simp
  | cons column rest ih =>
    obtain ⟨expr, label?⟩ := column
    simp [ih]

/-- Conditions hide what each of them hides. -/
theorem Condition.mem_listShadows {conditions : List Condition} :
    name ∈ Condition.listShadows outer conditions ↔
      ∃ condition ∈ conditions, name ∈ condition.shadows outer := by
  induction conditions with
  | nil => simp
  | cons condition rest ih => simp [ih]

/-- A selection hides what its rows, its columns, its condition and its order hide. -/
theorem Select.mem_shadows {select : Select} :
    name ∈ select.shadows outer ↔ name ∈ FromItem.clauseShadows outer select.from? ∨
      (∃ column ∈ select.columns,
        name ∈ column.expr.shadows ((select.from?.map FromItem.scope).toList ++ outer)) ∨
      name ∈ Condition.clauseShadows ((select.from?.map FromItem.scope).toList ++ outer)
        select.where? ∨
      ∃ term ∈ select.order,
        name ∈ term.expr.shadows ((select.from?.map FromItem.scope).toList ++ outer) := by
  obtain ⟨columns, from?, where?, order, limit?, offset?⟩ := select
  simp only [Select.shadows, List.mem_append, Projection.mem_listShadows,
    OrderTerm.mem_listShadows, or_assoc]

end

/-! ## Expressions and conditions on a column -/

section

variable {qualifier? : Option String} {name : String}

/-- An expression on a column hides nothing. -/
theorem Expr.OnColumn.shadows_eq_nil {expr : Expr} (h : expr.OnColumn qualifier? name)
    (outer : List String) : expr.shadows outer = [] := by
  induction h with
  | null | parameter | column | columnText | operation | raw => rw [Expr.shadows]
  | cast _ ih => rw [Expr.shadows, ih]
  | object _ ih | merge _ ih =>
    rw [Expr.shadows, List.eq_nil_iff_forall_not_mem]
    intro hidden hmem
    obtain ⟨entry, hentry, hmem⟩ := Expr.mem_entryShadows.1 hmem
    rw [ih entry hentry] at hmem
    cases hmem

/-- A condition on a column hides nothing. -/
theorem Condition.OnColumn.shadows_eq_nil {condition : Condition}
    (h : condition.OnColumn qualifier? name) (outer : List String) :
    condition.shadows outer = [] := by
  induction h with
  | not _ ih => rw [Condition.shadows, ih]
  | compare first second | startsWith first second | containsText first second =>
    rw [Condition.shadows, first.shadows_eq_nil, second.shadows_eq_nil, List.append_nil]
  | nullCheck inner => rw [Condition.shadows, inner.shadows_eq_nil]
  | inList inner members =>
    rw [Condition.shadows, inner.shadows_eq_nil, List.nil_append, List.eq_nil_iff_forall_not_mem]
    intro hidden hmem
    obtain ⟨value, hvalue, hmem⟩ := Expr.mem_listShadows.1 hmem
    rw [(members value hvalue).shadows_eq_nil] at hmem
    cases hmem
  | between inner lower upper =>
    rw [Condition.shadows, inner.shadows_eq_nil, lower.shadows_eq_nil, upper.shadows_eq_nil,
      List.append_nil, List.append_nil]
  | hasKey => rw [Condition.shadows]

end

/-! ## Conditions that are put together -/

namespace Condition

variable {conditions others : List Condition} {name : String} {outer : List String}

theorem mem_listShadows_append : name ∈ listShadows outer (conditions ++ others) ↔
    name ∈ listShadows outer conditions ∨ name ∈ listShadows outer others := by
  simp only [mem_listShadows, List.mem_append, or_and_right, exists_or]

theorem listShadows_parts (condition : Condition) :
    listShadows outer condition.parts = condition.shadows outer := by
  unfold parts
  split
  · rw [shadows]
  · rw [listShadows, listShadows, List.append_nil]

/-- A conjunction hides what its parts hide. -/
theorem mem_shadows_andAlso {left right : Condition} : name ∈ (left.andAlso right).shadows outer ↔
    name ∈ left.shadows outer ∨ name ∈ right.shadows outer := by
  rw [andAlso, shadows, mem_listShadows_append, listShadows_parts, listShadows_parts]

/-- Conditions that are joined hide what each of them hides. -/
theorem clauseShadows_all (conditions : List Condition) :
    clauseShadows outer (all conditions) = listShadows outer conditions := by
  unfold all
  split
  · rw [clauseShadows, listShadows]
  · rw [clauseShadows, listShadows, listShadows, List.append_nil]
  · rw [clauseShadows, shadows]

end Condition

end RelationalQuery.Sql
