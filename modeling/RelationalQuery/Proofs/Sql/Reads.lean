import RelationalQuery.Proofs.Sql.OnColumn

/-!
# Tables and statements that are read

A statement reads rows through its clauses of rows and through those of its subqueries, at any
depth.  What these clauses name are tables or earlier statements of the chain.

Main definitions:

- `Expr.reads`, `Condition.reads`, `Select.reads` and `Statement.reads` are the names of all clauses
  of rows.
- `Catalog.Knows` says that a catalog names all of some tables and statements.

Main results:

- `Select.mem_reads`: a selection reads what its parts read.
- `Condition.OnColumn.reads_eq_nil`: conditions on a column read no rows.
-/

namespace RelationalQuery.Sql

/-! ## Names of clauses of rows -/

mutual

/-- The tables and statements whose rows the subqueries of an expression read. -/
def Expr.reads : Expr → List String
  | .cast value _ => value.reads
  | .object entries => Expr.entryReads entries
  | .aggregate value order => value.reads ++ OrderTerm.listReads order
  | .merge _ entries => Expr.entryReads entries
  | .subquery query => query.reads
  | .null | .parameter _ | .column _ | .columnText _ | .reference _ _ | .operation _ _ _ _
  | .raw _ => []

/-- The tables and statements that the values of entries read. -/
def Expr.entryReads : List (String × Expr) → List String
  | [] => []
  | (_, value) :: rest => value.reads ++ Expr.entryReads rest

/-- The tables and statements that a list of expressions reads. -/
def Expr.listReads : List Expr → List String
  | [] => []
  | expr :: rest => expr.reads ++ Expr.listReads rest

/-- The tables and statements that the keys of an order read. -/
def OrderTerm.listReads : List OrderTerm → List String
  | [] => []
  | ⟨expr, _⟩ :: rest => expr.reads ++ OrderTerm.listReads rest

/-- The tables and statements that the columns of a result read. -/
def Projection.listReads : List Projection → List String
  | [] => []
  | ⟨expr, _⟩ :: rest => expr.reads ++ Projection.listReads rest

/-- The tables and statements whose rows the subqueries of a condition read. -/
def Condition.reads : Condition → List String
  | .and conditions => Condition.listReads conditions
  | .or conditions => Condition.listReads conditions
  | .not condition => condition.reads
  | .compare left _ right => left.reads ++ right.reads
  | .nullCheck expr _ => expr.reads
  | .inList expr values => expr.reads ++ Expr.listReads values
  | .between expr low high => expr.reads ++ low.reads ++ high.reads
  | .startsWith expr lead => expr.reads ++ lead.reads
  | .containsText expr needle => expr.reads ++ needle.reads
  | .exists query _ => query.reads
  | .hasKey _ _ | .raw _ => []

/-- The tables and statements that a list of conditions reads. -/
def Condition.listReads : List Condition → List String
  | [] => []
  | condition :: rest => condition.reads ++ Condition.listReads rest

/-- The tables and statements whose rows a clause of rows reads. -/
def FromItem.reads : FromItem → List String
  | .table name _ => [name]
  | .subquery query _ => query.reads
  | .unionAll sources _ => sources

/-- The tables and statements that the rows of a selection are read from, if it has rows. -/
def FromItem.clauseReads : Option FromItem → List String
  | none => []
  | some item => item.reads

/-- The tables and statements that a condition reads, if there is one. -/
def Condition.clauseReads : Option Condition → List String
  | none => []
  | some condition => condition.reads

/-- The tables and statements whose rows a selection reads, itself or in subqueries. -/
def Select.reads : Select → List String
  | ⟨columns, from?, where?, order, _, _⟩ =>
    FromItem.clauseReads from? ++ Projection.listReads columns ++ Condition.clauseReads where? ++
      OrderTerm.listReads order

end

/-- The tables and statements whose rows a statement reads.  A changed table is not among them. -/
def Statement.reads : Statement → List String
  | .select s => s.reads
  | .insert s =>
    (s.record?.toList.flatMap fun record => record.sources ++ Expr.entryReads record.entries) ++
      Projection.listReads s.returning
  | .update s =>
    s.allSources ++ (s.assignments.flatMap fun assignment => assignment.value.reads) ++
      Condition.clauseReads s.where? ++ Projection.listReads s.returning
  | .delete s => Condition.clauseReads s.where? ++ Projection.listReads s.returning

/-! ## Names of a catalog -/

/-- A catalog names all of some tables and statements. -/
def Catalog.Knows (catalog : Catalog) (names : List String) : Prop :=
  ∀ name ∈ names, (catalog name).isSome = true

/-! ## Lists of parts -/

section

variable {name : String}

/-- Entries read what their values read. -/
theorem Expr.mem_entryReads {entries : List (String × Expr)} :
    name ∈ Expr.entryReads entries ↔ ∃ entry ∈ entries, name ∈ entry.2.reads := by
  induction entries with
  | nil => simp [Expr.entryReads]
  | cons entry rest ih => simp [Expr.entryReads, ih]

/-- A list reads what its members read. -/
theorem Expr.mem_listReads {exprs : List Expr} :
    name ∈ Expr.listReads exprs ↔ ∃ expr ∈ exprs, name ∈ expr.reads := by
  induction exprs with
  | nil => simp [Expr.listReads]
  | cons expr rest ih => simp [Expr.listReads, ih]

/-- An order reads what its terms read. -/
theorem OrderTerm.mem_listReads {order : List OrderTerm} :
    name ∈ OrderTerm.listReads order ↔ ∃ term ∈ order, name ∈ term.expr.reads := by
  induction order with
  | nil => simp [OrderTerm.listReads]
  | cons term rest ih =>
    obtain ⟨expr, direction⟩ := term
    simp [OrderTerm.listReads, ih]

/-- Columns read what their expressions read. -/
theorem Projection.mem_listReads {columns : List Projection} :
    name ∈ Projection.listReads columns ↔ ∃ column ∈ columns, name ∈ column.expr.reads := by
  induction columns with
  | nil => simp [Projection.listReads]
  | cons column rest ih =>
    obtain ⟨expr, label?⟩ := column
    simp [Projection.listReads, ih]

/-- Conditions read what each of them reads. -/
theorem Condition.mem_listReads {conditions : List Condition} :
    name ∈ Condition.listReads conditions ↔ ∃ condition ∈ conditions, name ∈ condition.reads := by
  induction conditions with
  | nil => simp [Condition.listReads]
  | cons condition rest ih => simp [Condition.listReads, ih]

/-- A selection reads what its rows, its columns, its condition and its order read. -/
theorem Select.mem_reads {select : Select} :
    name ∈ select.reads ↔ name ∈ FromItem.clauseReads select.from? ∨
      (∃ column ∈ select.columns, name ∈ column.expr.reads) ∨
      name ∈ Condition.clauseReads select.where? ∨
      ∃ term ∈ select.order, name ∈ term.expr.reads := by
  obtain ⟨columns, from?, where?, order, limit?, offset?⟩ := select
  simp only [Select.reads, List.mem_append, Projection.mem_listReads, OrderTerm.mem_listReads,
    or_assoc]

end

/-- A catalog that names what each column reads names what they all read. -/
theorem Projection.knows_listReads {catalog : Catalog} {columns : List Projection}
    (h : ∀ column ∈ columns, catalog.Knows column.expr.reads) :
    catalog.Knows (Projection.listReads columns) := by
  intro name hname
  obtain ⟨column, hcolumn, hread⟩ := mem_listReads.1 hname
  exact h column hcolumn name hread

/-! ## Expressions and conditions on a column -/

section

variable {qualifier? : Option String} {name : String}

/-- An expression on a column reads no rows. -/
theorem Expr.OnColumn.reads_eq_nil {expr : Expr} (h : expr.OnColumn qualifier? name) :
    expr.reads = [] := by
  induction h with
  | null | parameter | column | columnText | operation | raw => rw [Expr.reads]
  | cast _ ih => rw [Expr.reads, ih]
  | object _ ih | merge _ ih =>
    rw [Expr.reads, List.eq_nil_iff_forall_not_mem]
    intro source hsource
    obtain ⟨entry, hentry, hread⟩ := Expr.mem_entryReads.1 hsource
    rw [ih entry hentry] at hread
    cases hread

/-- A condition on a column reads no rows. -/
theorem Condition.OnColumn.reads_eq_nil {condition : Condition}
    (h : condition.OnColumn qualifier? name) : condition.reads = [] := by
  induction h with
  | not _ ih => rw [Condition.reads, ih]
  | compare first second | startsWith first second | containsText first second =>
    rw [Condition.reads, first.reads_eq_nil, second.reads_eq_nil, List.append_nil]
  | nullCheck inner => rw [Condition.reads, inner.reads_eq_nil]
  | inList inner members =>
    rw [Condition.reads, inner.reads_eq_nil, List.nil_append, List.eq_nil_iff_forall_not_mem]
    intro source hsource
    obtain ⟨value, hvalue, hread⟩ := Expr.mem_listReads.1 hsource
    rw [(members value hvalue).reads_eq_nil] at hread
    cases hread
  | between inner lower upper =>
    rw [Condition.reads, inner.reads_eq_nil, lower.reads_eq_nil, upper.reads_eq_nil,
      List.append_nil, List.append_nil]
  | hasKey => rw [Condition.reads]

end

/-! ## Conditions that are put together -/

namespace Condition

variable {conditions others : List Condition}

@[simp]
theorem listReads_append :
    listReads (conditions ++ others) = listReads conditions ++ listReads others := by
  induction conditions with
  | nil => rw [List.nil_append, listReads, List.nil_append]
  | cons condition rest ih => rw [List.cons_append, listReads, ih, listReads, List.append_assoc]

@[simp]
theorem listReads_singleton (condition : Condition) : listReads [condition] = condition.reads := by
  rw [listReads, listReads, List.append_nil]

theorem listReads_parts (condition : Condition) : listReads condition.parts = condition.reads := by
  unfold parts
  split
  · rw [reads]
  · rw [listReads_singleton]

/-- A conjunction reads what its parts read. -/
theorem reads_andAlso (left right : Condition) :
    (left.andAlso right).reads = left.reads ++ right.reads := by
  rw [andAlso, reads, listReads_append, listReads_parts, listReads_parts]

/-- Conditions that are joined read what each of them reads. -/
theorem clauseReads_all (conditions : List Condition) :
    clauseReads (all conditions) = listReads conditions := by
  unfold all
  split
  · rw [clauseReads, listReads]
  · rw [clauseReads, listReads_singleton]
  · rw [clauseReads, reads]

end Condition

end RelationalQuery.Sql
