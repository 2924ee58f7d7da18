import Mathlib.Data.List.Nodup
import RelationalQuery.Proofs.Alias
import RelationalQuery.Proofs.Sql.Evaluation
import RelationalQuery.Sql.Chain

/-!
# Well scoped statements

A column reference is resolved before a statement is run: it has to belong to exactly one item in
its scope, and that item has to provide the column.  Base tables provide their columns, and an
earlier statement of a chain provides what it exposes, which is its list of columns or what it
returns.

The judgements follow the trees.  A selection and the rows that it reads expose columns, so that
being well scoped and what is exposed are told together.

Main definitions:

- `Catalog` gives the columns of the tables and statements that can be named.
- `Expr.WellScoped`, `Condition.WellScoped`, `FromItem.Provides` and `Select.Exposes` are the
  judgements on trees; `Statement.Exposes` is the one on statements.
- `Chain.WellScoped` says that every statement is well scoped in the catalog of the tables and of
  the statements before it.

Main results:

- `Chain.WellScopedFrom.append_map`: a run of similar statements extends the catalog.
-/

namespace RelationalQuery.Sql

/-! ## Catalogs -/

/-- An item that provides columns by name; a name that several columns have stands for none. -/
def Item.ofColumns (name : String) (columns : List String) : Item Unit :=
  ⟨name, fun column => if columns.count column = 1 then some () else none⟩

/-- The columns of the tables; a table that is not known has none. -/
abbrev Tables := String → List String

/-- The columns of the tables and statements that can be named. -/
abbrev Catalog := String → Option (List String)

namespace Catalog

/-- Add a statement with the columns that it exposes; it hides a table of its name. -/
def extend (catalog : Catalog) (name : String) (columns : List String) : Catalog :=
  fun other => if other = name then some columns else catalog other

/-- The items of several tables or statements. -/
def items (catalog : Catalog) (sources : List String) : List (Item Unit) :=
  sources.map fun source => .ofColumns source ((catalog source).getD [])

/-- Whatever one catalog names another one names with the same columns. -/
def Extends (catalog other : Catalog) : Prop :=
  ∀ name columns, other name = some columns → catalog name = some columns

/-- No name of a stem from an index on is taken. -/
def FreeFrom (catalog : Catalog) (stem : String) (index : Nat) : Prop :=
  ∀ later, index ≤ later → catalog (numberedName stem later) = none

end Catalog

/-! ## Judgements on trees -/

/-- The names that an output column exposes over rows with the given columns; the star stands for
all of these. -/
def Projection.exposed (provided : List String) (column : Projection) : List String :=
  match column.alias?, column.expr with
  | none, .raw "*" => provided
  | _, _ => [column.name]

/-- The names that output columns expose. -/
def exposedNames (columns : List Projection) (provided : List String) : List String :=
  columns.flatMap (·.exposed provided)

/-- The names that a selection exposes; without columns it has those of its rows. -/
def Select.exposed (select : Select) (provided : List String) : List String :=
  if select.columns.isEmpty then provided else exposedNames select.columns provided

/-- The column has a value in the scope. -/
def ColumnRef.Resolves (column : ColumnRef) (scope : Scope Unit) : Prop :=
  scope.resolve column.qualifier? column.name = some ()

/-- The trusted texts that name no column. -/
def columnFreeTexts : List String := ["1", "*", "COUNT(1)", "'null'::jsonb"]

mutual

/-- Every column of an expression resolves. -/
inductive Expr.WellScoped (catalog : Catalog) : Scope Unit → Expr → Prop
  | null {scope : Scope Unit} : Expr.WellScoped catalog scope .null
  | parameter {scope : Scope Unit} {value : Parameter} :
      Expr.WellScoped catalog scope (.parameter value)
  | column {scope : Scope Unit} {column : ColumnRef} (resolves : column.Resolves scope) :
      Expr.WellScoped catalog scope (.column column)
  | columnText {scope : Scope Unit} {column : ColumnRef} (resolves : column.Resolves scope) :
      Expr.WellScoped catalog scope (.columnText column)
  | reference {scope : Scope Unit} {source column : String}
      (resolves : (ColumnRef.qualified source column).Resolves scope) :
      Expr.WellScoped catalog scope (.reference source column)
  | operation {scope : Scope Unit} {target : ColumnRef} {operator : ArithmeticOperator}
      {operand : Parameter} {numericType : String} (resolves : target.Resolves scope) :
      Expr.WellScoped catalog scope (.operation target operator operand numericType)
  | cast {scope : Scope Unit} {value : Expr} {type : String}
      (inner : Expr.WellScoped catalog scope value) :
      Expr.WellScoped catalog scope (.cast value type)
  | object {scope : Scope Unit} {entries : List (String × Expr)}
      (values : ∀ entry ∈ entries, Expr.WellScoped catalog scope entry.2) :
      Expr.WellScoped catalog scope (.object entries)
  | aggregate {scope : Scope Unit} {value : Expr} {order : List OrderTerm}
      (inner : Expr.WellScoped catalog scope value)
      (keys : ∀ term ∈ order, Expr.WellScoped catalog scope term.expr) :
      Expr.WellScoped catalog scope (.aggregate value order)
  | merge {scope : Scope Unit} {target : ColumnRef} {entries : List (String × Expr)}
      (resolves : target.Resolves scope)
      (values : ∀ entry ∈ entries, Expr.WellScoped catalog scope entry.2) :
      Expr.WellScoped catalog scope (.merge target entries)
  | subquery {scope : Scope Unit} {query : Select} {columns : List String}
      (inner : Select.Exposes catalog scope query columns) :
      Expr.WellScoped catalog scope (.subquery query)
  | raw {scope : Scope Unit} {text : String} (columnFree : text ∈ columnFreeTexts) :
      Expr.WellScoped catalog scope (.raw text)

/-- Every column of a condition resolves. -/
inductive Condition.WellScoped (catalog : Catalog) : Scope Unit → Condition → Prop
  | and {scope : Scope Unit} {conditions : List Condition}
      (parts : ∀ part ∈ conditions, Condition.WellScoped catalog scope part) :
      Condition.WellScoped catalog scope (.and conditions)
  | or {scope : Scope Unit} {conditions : List Condition}
      (parts : ∀ part ∈ conditions, Condition.WellScoped catalog scope part) :
      Condition.WellScoped catalog scope (.or conditions)
  | not {scope : Scope Unit} {condition : Condition}
      (inner : Condition.WellScoped catalog scope condition) :
      Condition.WellScoped catalog scope (.not condition)
  | compare {scope : Scope Unit} {left right : Expr} {comparison : Comparison}
      (first : Expr.WellScoped catalog scope left) (second : Expr.WellScoped catalog scope right) :
      Condition.WellScoped catalog scope (.compare left comparison right)
  | nullCheck {scope : Scope Unit} {expr : Expr} {isNull : Bool}
      (inner : Expr.WellScoped catalog scope expr) :
      Condition.WellScoped catalog scope (.nullCheck expr isNull)
  | inList {scope : Scope Unit} {expr : Expr} {values : List Expr}
      (inner : Expr.WellScoped catalog scope expr)
      (members : ∀ value ∈ values, Expr.WellScoped catalog scope value) :
      Condition.WellScoped catalog scope (.inList expr values)
  | between {scope : Scope Unit} {expr low high : Expr}
      (inner : Expr.WellScoped catalog scope expr) (lower : Expr.WellScoped catalog scope low)
      (upper : Expr.WellScoped catalog scope high) :
      Condition.WellScoped catalog scope (.between expr low high)
  | startsWith {scope : Scope Unit} {expr lead : Expr}
      (inner : Expr.WellScoped catalog scope expr) (start : Expr.WellScoped catalog scope lead) :
      Condition.WellScoped catalog scope (.startsWith expr lead)
  | containsText {scope : Scope Unit} {expr needle : Expr}
      (inner : Expr.WellScoped catalog scope expr) (part : Expr.WellScoped catalog scope needle) :
      Condition.WellScoped catalog scope (.containsText expr needle)
  | hasKey {scope : Scope Unit} {column : ColumnRef} {key : String}
      (resolves : column.Resolves scope) : Condition.WellScoped catalog scope (.hasKey column key)
  | exists {scope : Scope Unit} {query : Select} {columns : List String} {negated : Bool}
      (inner : Select.Exposes catalog scope query columns) :
      Condition.WellScoped catalog scope (.exists query negated)

/-- The rows of a FROM clause are well scoped and have the given columns.  A subquery reads the
scope around the clause, and all statements of a union have the same columns. -/
inductive FromItem.Provides (catalog : Catalog) : Scope Unit → FromItem → List String → Prop
  | table {scope : Scope Unit} {name : String} {label? : Option String} {columns : List String}
      (known : catalog name = some columns) :
      FromItem.Provides catalog scope (.table name label?) columns
  | subquery {scope : Scope Unit} {query : Select} {label : String} {columns : List String}
      (inner : Select.Exposes catalog scope query columns) :
      FromItem.Provides catalog scope (.subquery query label) columns
  | unionAll {scope : Scope Unit} {sources : List String} {label : String} {columns : List String}
      (nonempty : sources ≠ []) (known : ∀ source ∈ sources, catalog source = some columns) :
      FromItem.Provides catalog scope (.unionAll sources label) columns

/-- A selection is well scoped and exposes the given columns.  Its clauses read its rows first and
then the scope around it. -/
inductive Select.Exposes (catalog : Catalog) : Scope Unit → Select → List String → Prop
  | rows {scope : Scope Unit} {select : Select} {rows : FromItem} {provided : List String}
      (source : select.from? = some rows) (provides : FromItem.Provides catalog scope rows provided)
      (columns : ∀ column ∈ select.columns,
        Expr.WellScoped catalog (scope.push (.ofColumns rows.scope provided)) column.expr)
      (condition : ∀ condition ∈ select.where?,
        Condition.WellScoped catalog (scope.push (.ofColumns rows.scope provided)) condition)
      (order : ∀ term ∈ select.order,
        Expr.WellScoped catalog (scope.push (.ofColumns rows.scope provided)) term.expr) :
      Select.Exposes catalog scope select (select.exposed provided)
  | noRows {scope : Scope Unit} {select : Select} (source : select.from? = none)
      (columns : ∀ column ∈ select.columns, Expr.WellScoped catalog scope column.expr)
      (condition : ∀ condition ∈ select.where?, Condition.WellScoped catalog scope condition)
      (order : ∀ term ∈ select.order, Expr.WellScoped catalog scope term.expr) :
      Select.Exposes catalog scope select (select.exposed [])

end

/-! ## Judgements on statements -/

/-- A statement is well scoped and exposes the given columns.  It changes a table, and reads tables
and earlier statements.  Written columns have no qualifier. -/
inductive Statement.Exposes (tables : Tables) (catalog : Catalog) : Statement → List String → Prop
  | select {select : Select} {columns : List String}
      (inner : select.Exposes catalog [] columns) : Exposes tables catalog (.select select) columns
  | insert {insert : Insert} {table : String} {record : Record}
      (named : insert.table? = some table) (row : insert.record? = some record)
      (written : ∀ column ∈ record.columns, column ∈ tables table)
      (known : ∀ source ∈ record.sources, (catalog source).isSome = true)
      (values : ∀ entry ∈ record.entries,
        entry.2.WellScoped catalog [catalog.items record.sources])
      (returned : ∀ column ∈ insert.returning,
        column.expr.WellScoped catalog [[.ofColumns table (tables table)]]) :
      Exposes tables catalog (.insert insert) (exposedNames insert.returning (tables table))
  | update {update : Update} {table : String} (named : update.table? = some table)
      (written : ∀ assignment ∈ update.assignments,
        assignment.target.qualifier? = none ∧ assignment.target.name ∈ tables table)
      (known : ∀ source ∈ update.allSources, (catalog source).isSome = true)
      (values : ∀ assignment ∈ update.assignments, assignment.value.WellScoped catalog
        [.ofColumns table (tables table) :: catalog.items update.allSources])
      (condition : ∀ condition ∈ update.where?, condition.WellScoped catalog
        [.ofColumns table (tables table) :: catalog.items update.allSources])
      (returned : ∀ column ∈ update.returning, column.expr.WellScoped catalog
        [.ofColumns table (tables table) :: catalog.items update.allSources]) :
      Exposes tables catalog (.update update) (exposedNames update.returning (tables table))
  | delete {delete : Delete} {table : String} (named : delete.table? = some table)
      (condition : ∀ condition ∈ delete.where?,
        condition.WellScoped catalog [[.ofColumns table (tables table)]])
      (returned : ∀ column ∈ delete.returning,
        column.expr.WellScoped catalog [[.ofColumns table (tables table)]]) :
      Exposes tables catalog (.delete delete) (exposedNames delete.returning (tables table))

namespace Chain

/-- The names of the statements that later ones can read; the last statement has none. -/
def statementNames (chain : Chain) : List String :=
  (List.range (chain.statements.length - 1)).map chain.nameAt

/-- The catalog in front of a chain: the names of its statements cannot be used yet. -/
def outside (chain : Chain) (tables : Tables) : Catalog := fun name =>
  if name ∈ chain.statementNames then none else some (tables name)

/-- Statements are well scoped one after the other; the first one has the given index and reads the
given catalog, and each of them is added to the catalog of those behind it. -/
inductive WellScopedFrom (tables : Tables) (stem : String) :
    Nat → Catalog → List Statement → Prop
  | nil {index : Nat} {catalog : Catalog} : WellScopedFrom tables stem index catalog []
  | cons {index : Nat} {catalog : Catalog} {statement : Statement} {rest : List Statement}
      {columns : List String} (head : statement.Exposes tables catalog columns)
      (tail : WellScopedFrom tables stem (index + 1)
        (catalog.extend (numberedName stem index) columns) rest) :
      WellScopedFrom tables stem index catalog (statement :: rest)

/-- Every statement of a chain is well scoped in the catalog of the tables and of the statements
before it. -/
def WellScoped (chain : Chain) (tables : Tables) : Prop :=
  WellScopedFrom tables chain.stem 0 (chain.outside tables) chain.statements

end Chain

/-! ## Exposed names -/

/-- Columns expose their own names. -/
theorem exposedNames_column (columns provided : List String) :
    exposedNames (columns.map Projection.column) provided = columns := by
  induction columns with
  | nil => rfl
  | cons column rest ih =>
    rw [List.map_cons, exposedNames, List.flatMap_cons]
    exact congrArg (column :: ·) ih

/-! ## Columns of items -/

/-- Without its repetitions a list repeats nothing. -/
theorem nodup_eraseDups (names : List String) : names.eraseDups.Nodup := by
  match names with
  | [] => exact List.nodup_nil
  | name :: rest =>
    rw [List.eraseDups_cons, List.nodup_cons]
    constructor
    · simp [List.mem_eraseDups]
    · exact nodup_eraseDups _
termination_by names.length
decreasing_by
  have := List.length_filter_le (fun other => !other == name) rest
  simp only [List.length_cons]
  omega

/-- A name that a single column has is one that the item provides. -/
theorem Item.column?_ofColumns {columns : List String} (distinct : columns.Nodup) {column : String}
    (hmem : column ∈ columns) (name : String) :
    (Item.ofColumns name columns).column? column = some () :=
  if_pos (List.count_eq_one_of_mem distinct hmem)

/-- The columns of an item are found under its name. -/
theorem Scope.resolve_push_ofColumns {columns : List String} (distinct : columns.Nodup)
    {column : String} (hmem : column ∈ columns) (scope : Scope Unit) (name : String) :
    (scope.push (.ofColumns name columns)).resolve (some name) column = some () :=
  (scope.resolve_push_self (.ofColumns name columns) column).trans
    (Item.column?_ofColumns distinct hmem name)

/-- Several statements that are read together are each read under their own name. -/
theorem Catalog.resolve_items {catalog : Catalog} {sources columns : List String}
    {source column : String} (distinct : sources.Nodup) (hsource : source ∈ sources)
    (known : catalog source = some columns) (distinctColumns : columns.Nodup)
    (hmem : column ∈ columns) :
    Scope.resolve [catalog.items sources] (some source) column = some () := by
  have hnames : (catalog.items sources).map (·.name) = sources := by
    rw [items, List.map_map]
    exact List.map_id sources
  have hitem : Item.ofColumns source columns ∈ catalog.items sources := by
    rw [items, List.mem_map]
    exact ⟨source, hsource, by rw [known]; rfl⟩
  have hresolve := Scope.resolve_of_mem (by rw [hnames]; exact distinct) hitem [] column
  exact hresolve.trans (Item.column?_ofColumns distinctColumns hmem source)

/-! ## Conditions -/

namespace Condition

variable {catalog : Catalog} {scope : Scope Unit}

/-- The parts of a condition that is well scoped are well scoped. -/
theorem WellScoped.parts {condition : Condition} (h : condition.WellScoped catalog scope) :
    ∀ part ∈ condition.parts, part.WellScoped catalog scope := by
  cases h with
  | and parts => exact parts
  | _ =>
    intro part hpart
    rw [List.mem_singleton.1 hpart]
    constructor <;> assumption

/-- The conjunction of two conditions that are well scoped is well scoped. -/
theorem WellScoped.andAlso {left right : Condition} (hleft : left.WellScoped catalog scope)
    (hright : right.WellScoped catalog scope) : (left.andAlso right).WellScoped catalog scope := by
  refine .and ?_
  intro part hpart
  rcases List.mem_append.1 hpart with hpart | hpart
  · exact hleft.parts part hpart
  · exact hright.parts part hpart

/-- So are joined conditions. -/
theorem wellScoped_all {conditions : List Condition}
    (h : ∀ condition ∈ conditions, condition.WellScoped catalog scope) :
    ∀ condition ∈ Condition.all conditions, condition.WellScoped catalog scope := by
  intro condition hcondition
  match conditions with
  | [] => simp [Condition.all] at hcondition
  | [single] =>
    obtain rfl : single = condition := by simpa [Condition.all] using hcondition
    exact h single (by simp)
  | first :: second :: rest =>
    obtain rfl : Condition.and (first :: second :: rest) = condition := by
      simpa [Condition.all] using hcondition
    exact .and h

end Condition

/-! ## Catalogs of chains -/

namespace Catalog

theorem Extends.refl (catalog : Catalog) : catalog.Extends catalog := fun _ _ h => h

theorem Extends.trans {first second third : Catalog} (h : first.Extends second)
    (h' : second.Extends third) : first.Extends third := by
  intro name columns hname
  exact h name columns (h' name columns hname)

/-- A catalog that is extended names what it was extended by. -/
theorem extend_self (catalog : Catalog) (name : String) (columns : List String) :
    catalog.extend name columns name = some columns :=
  if_pos rfl

/-- A statement under a free name hides nothing. -/
theorem extends_extend {catalog : Catalog} {name : String} (free : catalog name = none)
    (columns : List String) : (catalog.extend name columns).Extends catalog := by
  intro other known hother
  have hne : other ≠ name := by
    rintro rfl
    simp [free] at hother
  rw [extend, if_neg hne]
  exact hother

/-- Extensions by the same name keep what a catalog names. -/
theorem Extends.extend {catalog known : Catalog} (h : catalog.Extends known) (name : String)
    (columns : List String) : (catalog.extend name columns).Extends (known.extend name columns) := by
  intro other columns' hother
  unfold Catalog.extend at hother ⊢
  split at hother
  · rename_i hname
    rwa [if_pos hname]
  · rename_i hname
    rw [if_neg hname]
    exact h other columns' hother

/-- The next name is free after an extension by the one before it. -/
theorem FreeFrom.extend {catalog : Catalog} {stem : String} {index : Nat}
    (free : catalog.FreeFrom stem index) (columns : List String) :
    (catalog.extend (numberedName stem index) columns).FreeFrom stem (index + 1) := by
  intro later hlater
  have hne : numberedName stem later ≠ numberedName stem index := by
    intro hname
    have := numberedName_inj.1 hname
    omega
  rw [Catalog.extend, if_neg hne]
  exact free later (by omega)

end Catalog

/-- A run of similar statements of which each is well scoped whatever the others expose.  What is
known of the catalog leaves their names free, and the statements behind them know them all. -/
theorem Chain.WellScopedFrom.append_map {α : Type} {tables : Tables} {known catalog : Catalog}
    {stem : String} {index : Nat} {rows : List α} {statement : α → Statement}
    (exposed : α → List String) {rest : List Statement} (free : known.FreeFrom stem index)
    (extension : catalog.Extends known)
    (each : ∀ row ∈ rows, ∀ later : Catalog, later.Extends known →
      (statement row).Exposes tables later (exposed row))
    (continued : ∀ known' later : Catalog, known'.Extends known →
      known'.FreeFrom stem (index + rows.length) → later.Extends known' →
      (∀ k row, rows[k]? = some row →
        known' (numberedName stem (index + k)) = some (exposed row)) →
      Chain.WellScopedFrom tables stem (index + rows.length) later rest) :
    Chain.WellScopedFrom tables stem index catalog (rows.map statement ++ rest) := by
  induction rows generalizing index known catalog with
  | nil => exact continued known catalog (.refl known) free extension (by simp)
  | cons row rows ih =>
    have hextends := Catalog.extends_extend (free index (Nat.le_refl index)) (exposed row)
    refine .cons (each row (by simp) catalog extension)
      (ih (free.extend (exposed row)) (extension.extend _ (exposed row)) ?_ ?_)
    · intro other hother later hlater
      exact each other (by simp [hother]) later (hlater.trans hextends)
    · intro known' later hknown hfree hlater hnames
      have hindex : index + 1 + rows.length = index + (row :: rows).length := by
        rw [List.length_cons]
        omega
      rw [hindex] at hfree ⊢
      refine continued known' later (hknown.trans hextends) hfree hlater ?_
      intro k other hother
      cases k with
      | zero =>
        obtain rfl : row = other := by simpa using hother
        exact hknown _ _ (Catalog.extend_self ..)
      | succ k =>
        have hk : index + 1 + k = index + (k + 1) := by omega
        rw [← hk]
        exact hnames k other (by simpa using hother)

end RelationalQuery.Sql
