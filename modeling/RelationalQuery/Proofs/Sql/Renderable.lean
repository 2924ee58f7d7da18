import RelationalQuery.Proofs.Computation
import RelationalQuery.Proofs.Sql.OnColumn
import RelationalQuery.Sql.Chain

/-!
# Trees that can be rendered

Rendering fails on a name that cannot be quoted, and on a statement that lacks a part.  A tree can be
rendered exactly if its parts can be.

Main definitions:

- `IsName` says that a text can be a name.

Main results:

- `Select.succeeds_tokens` and its companions: a tree is rendered exactly if its parts are.
- `Expr.OnColumn.succeeds_tokens` and `Condition.OnColumn.succeeds_conjuncts`: expressions and
  conditions on a column are rendered if the column has a name.
- `Insert.succeeds_tokens`, `Update.succeeds_tokens` and `Delete.succeeds_tokens`: what a statement
  needs to be rendered.
- `Chain.succeeds_tokens`: a chain is rendered exactly if its statements are.
-/

namespace RelationalQuery.Sql

/-! ## Names -/

/-- A text can be a name: it is not empty and does not hold the character zero. -/
def IsName (text : String) : Prop := text.isEmpty = false ∧ text.toList.contains nul = false

instance (text : String) : Decidable (IsName text) := inferInstanceAs (Decidable (_ ∧ _))

/-- A name is rendered exactly if it is one. -/
@[simp]
theorem succeeds_nameTokens {text : String} : Succeeds (nameTokens text) ↔ IsName text := by
  rw [nameTokens, succeeds_bind_pure, Identifier.ofText, IsName]
  by_cases hempty : text.isEmpty = false
  · by_cases hnul : text.toList.contains nul = false
    · rw [dif_pos hempty, dif_pos hnul]
      exact iff_of_true succeeds_ok ⟨hempty, hnul⟩
    · rw [dif_pos hempty, dif_neg hnul]
      exact iff_of_false not_succeeds_error fun h => hnul h.2
  · rw [dif_neg hempty]
    exact iff_of_false not_succeeds_error fun h => hempty h.1

/-- A number behind a stem without the character zero is a name. -/
theorem isName_numberedName {stem : String} (h : stem.toList.contains nul = false) (index : Nat) :
    IsName (numberedName stem index) := by
  have hdigits : nul ∉ Nat.toDigits 10 index := by
    intro hmem
    have hdigit := Nat.isDigit_of_mem_toDigits (by decide) (by decide) hmem
    exact absurd hdigit (by decide)
  have htext : (numberedName stem index).toList = stem.toList ++ Nat.toDigits 10 index := by
    rw [numberedName, Text.natural, String.toList_append, String.toList_ofList]
  constructor
  · rw [String.isEmpty_eq_false_iff, Ne, ← String.toList_inj, htext]
    exact fun hnil => Nat.toDigits_ne_nil (List.append_eq_nil_iff.1 hnil).2
  · rw [htext]
    simpa using And.intro (by simpa using h) hdigits

/-- A qualified name is rendered exactly if both names are. -/
@[simp]
theorem succeeds_qualifiedTokens {qualifier? : Option String} {name : String} :
    Succeeds (qualifiedTokens qualifier? name) ↔
      (∀ qualifier ∈ qualifier?, IsName qualifier) ∧ IsName name := by
  cases qualifier? with
  | none => simp [qualifiedTokens]
  | some qualifier =>
    rw [qualifiedTokens, succeeds_bind_iff fun _ => succeeds_bind_pure]
    simp

namespace ColumnRef

variable {column : ColumnRef}

/-- A column has names if its qualifier and its own name are names. -/
def IsNamed (column : ColumnRef) : Prop :=
  (∀ qualifier ∈ column.qualifier?, IsName qualifier) ∧ IsName column.name

/-- A column is rendered exactly if it has names. -/
@[simp]
theorem succeeds_tokens : Succeeds column.tokens ↔ column.IsNamed := by
  rw [tokens, succeeds_bind_pure, succeeds_qualifiedTokens, IsNamed]

/-- So is the text of a column. -/
@[simp]
theorem succeeds_textTokens : Succeeds column.textTokens ↔ column.IsNamed := by
  rw [textTokens, succeeds_bind_pure, succeeds_qualifiedTokens, IsNamed]

/-- So is an operation on a column. -/
@[simp]
theorem succeeds_operationTokens {operator : ArithmeticOperator} {operand : Parameter}
    {numericType : String} :
    Succeeds (column.operationTokens operator operand numericType) ↔ column.IsNamed := by
  unfold operationTokens
  split <;> simp

end ColumnRef

@[simp]
theorem succeeds_aliasedTokens {tokens : List Token} {alias? : Option String} :
    Succeeds (aliasedTokens tokens alias?) ↔ ∀ label ∈ alias?, IsName label := by
  cases alias? <;> simp [aliasedTokens]

/-- A union is rendered exactly if its sources have names. -/
@[simp]
theorem succeeds_unionTokens {sources : List String} :
    Succeeds (unionTokens sources) ↔ ∀ source ∈ sources, IsName source := by
  rw [unionTokens, succeeds_bind_pure, succeeds_mapM]
  simp

/-! ## Lists of parts -/

/-- Entries are rendered exactly if their values are. -/
theorem Expr.succeeds_entryTokens {entries : List (String × Expr)} :
    Succeeds (Expr.entryTokens entries) ↔ ∀ entry ∈ entries, Succeeds entry.2.tokens := by
  induction entries with
  | nil => simp [Expr.entryTokens]
  | cons entry rest ih =>
    obtain ⟨key, value⟩ := entry
    rw [Expr.entryTokens, succeeds_bind_iff fun _ => succeeds_bind_pure, ih, List.forall_mem_cons]

/-- A list is rendered exactly if its members are. -/
theorem Expr.succeeds_listTokens {exprs : List Expr} :
    Succeeds (Expr.listTokens exprs) ↔ ∀ expr ∈ exprs, Succeeds expr.tokens := by
  induction exprs with
  | nil => simp [Expr.listTokens]
  | cons expr rest ih =>
    rw [Expr.listTokens, succeeds_bind_iff fun _ => succeeds_bind_pure, ih, List.forall_mem_cons]

/-- An order is rendered exactly if its terms are. -/
theorem OrderTerm.succeeds_listTokens {order : List OrderTerm} :
    Succeeds (OrderTerm.listTokens order) ↔ ∀ term ∈ order, Succeeds term.expr.tokens := by
  induction order with
  | nil => simp [OrderTerm.listTokens]
  | cons term rest ih =>
    obtain ⟨expr, direction⟩ := term
    rw [OrderTerm.listTokens, succeeds_bind_iff fun _ => succeeds_bind_pure, ih,
      List.forall_mem_cons]

/-- A column of a result is rendered if its expression is and its alias is a name. -/
def Projection.Renders (column : Projection) : Prop :=
  Succeeds column.expr.tokens ∧ ∀ label ∈ column.alias?, IsName label

/-- Columns are rendered exactly if each of them is. -/
theorem Projection.succeeds_listTokens {columns : List Projection} :
    Succeeds (Projection.listTokens columns) ↔ ∀ column ∈ columns, column.Renders := by
  induction columns with
  | nil => simp [Projection.listTokens]
  | cons column rest ih =>
    obtain ⟨expr, alias?⟩ := column
    rw [Projection.listTokens, List.forall_mem_cons, ← ih, Renders, and_assoc]
    refine succeeds_bind_iff fun tokens => ?_
    rw [succeeds_bind_iff fun _ => succeeds_bind_pure, succeeds_aliasedTokens]

/-- Conditions are rendered exactly if the parts of each of them are. -/
theorem Condition.succeeds_allConjuncts {conditions : List Condition} :
    Succeeds (Condition.allConjuncts conditions) ↔
      ∀ condition ∈ conditions, Succeeds condition.conjuncts := by
  induction conditions with
  | nil => simp [Condition.allConjuncts]
  | cons condition rest ih =>
    rw [Condition.allConjuncts, succeeds_bind_iff fun _ => succeeds_bind_pure, ih,
      List.forall_mem_cons]

theorem Condition.succeeds_listTokens {conditions : List Condition} :
    Succeeds (Condition.listTokens conditions) ↔
      ∀ condition ∈ conditions, Succeeds condition.conjuncts := by
  induction conditions with
  | nil => simp [Condition.listTokens]
  | cons condition rest ih =>
    rw [Condition.listTokens, succeeds_bind_iff fun _ => succeeds_bind_pure, ih,
      List.forall_mem_cons]

/-- A clause of a condition is rendered exactly if its condition is. -/
theorem Condition.succeeds_clauseTokens {condition? : Option Condition} :
    Succeeds (Condition.clauseTokens condition?) ↔
      ∀ condition ∈ condition?, Succeeds condition.conjuncts := by
  cases condition? with
  | none => simp [Condition.clauseTokens]
  | some condition => simp [Condition.clauseTokens]

namespace FromItem

/-- A table is rendered exactly if it and its label have names. -/
theorem succeeds_table {name : String} {alias? : Option String} :
    Succeeds (FromItem.table name alias?).tokens ↔
      IsName name ∧ ∀ label ∈ alias?, IsName label := by
  rw [FromItem.tokens, ← succeeds_nameTokens]
  exact succeeds_bind_iff fun _ => succeeds_aliasedTokens

/-- A subquery is rendered exactly if its selection is and it has a label. -/
theorem succeeds_subquery {query : Select} {label : String} :
    Succeeds (FromItem.subquery query label).tokens ↔ Succeeds query.tokens ∧ IsName label := by
  rw [FromItem.tokens]
  refine succeeds_bind_iff fun _ => ?_
  simp

/-- A union is rendered exactly if its sources and its label have names. -/
theorem succeeds_unionAll {sources : List String} {label : String} :
    Succeeds (FromItem.unionAll sources label).tokens ↔
      (∀ source ∈ sources, IsName source) ∧ IsName label := by
  rw [FromItem.tokens, ← succeeds_unionTokens]
  refine succeeds_bind_iff fun _ => ?_
  simp

theorem succeeds_clauseTokens {item? : Option FromItem} :
    Succeeds (clauseTokens item?) ↔ ∀ item ∈ item?, Succeeds item.tokens := by
  cases item? with
  | none => simp [clauseTokens]
  | some item => simp [clauseTokens]

end FromItem

/-- A selection is rendered exactly if its columns, its rows, its condition and its order are. -/
theorem Select.succeeds_tokens {select : Select} :
    Succeeds select.tokens ↔
      (∀ column ∈ select.columns, column.Renders) ∧
      (∀ item ∈ select.from?, Succeeds item.tokens) ∧
      (∀ condition ∈ select.where?, Succeeds condition.conjuncts) ∧
      ∀ term ∈ select.order, Succeeds term.expr.tokens := by
  obtain ⟨columns, from?, where?, order, limit?, offset?⟩ := select
  rw [Select.tokens, ← Projection.succeeds_listTokens, ← FromItem.succeeds_clauseTokens,
    ← Condition.succeeds_clauseTokens, ← OrderTerm.succeeds_listTokens]
  refine succeeds_bind_iff fun _ => ?_
  refine succeeds_bind_iff fun _ => ?_
  exact succeeds_bind_iff fun _ => succeeds_bind_pure

/-! ## Expressions and conditions on a column -/

section

variable {qualifier? : Option String} {name : String}
  (qualified : ∀ qualifier ∈ qualifier?, IsName qualifier) (named : IsName name)

include qualified named

/-- An expression on a column is rendered if the column has names. -/
theorem Expr.OnColumn.succeeds_tokens {expr : Expr} (h : expr.OnColumn qualifier? name) :
    Succeeds expr.tokens := by
  induction h with
  | null | parameter | raw => rw [Expr.tokens]; exact succeeds_ok
  | column | columnText | operation =>
    rw [Expr.tokens]
    simp only [ColumnRef.succeeds_tokens, ColumnRef.succeeds_textTokens,
      ColumnRef.succeeds_operationTokens]
    exact ⟨qualified, named⟩
  | cast _ ih =>
    rw [Expr.tokens, succeeds_bind_pure]
    exact ih
  | object _ ih =>
    rw [Expr.tokens, succeeds_bind_pure, Expr.succeeds_entryTokens]
    exact ih
  | merge _ ih =>
    rw [Expr.tokens, succeeds_bind_iff fun _ => succeeds_bind_pure, ColumnRef.succeeds_tokens,
      Expr.succeeds_entryTokens]
    exact ⟨⟨qualified, named⟩, ih⟩

/-- A condition on a column is rendered if the column has names. -/
theorem Condition.OnColumn.succeeds_conjuncts {condition : Condition}
    (h : condition.OnColumn qualifier? name) : Succeeds condition.conjuncts := by
  induction h with
  | not _ ih =>
    rw [Condition.conjuncts, succeeds_bind_pure]
    exact ih
  | compare first second | startsWith first second | containsText first second =>
    rw [Condition.conjuncts, succeeds_bind_iff fun _ => succeeds_bind_pure]
    exact ⟨first.succeeds_tokens qualified named, second.succeeds_tokens qualified named⟩
  | nullCheck inner =>
    rw [Condition.conjuncts, succeeds_bind_pure]
    exact inner.succeeds_tokens qualified named
  | @inList _ values inner members =>
    cases values with
    | nil =>
      rw [Condition.conjuncts]
      exact succeeds_ok
    | cons value rest =>
      rw [List.forall_mem_cons] at members
      rw [Condition.conjuncts, succeeds_bind_iff fun _ => succeeds_bind_iff fun _ =>
        succeeds_bind_pure, Expr.succeeds_listTokens]
      exact ⟨inner.succeeds_tokens qualified named, members.1.succeeds_tokens qualified named,
        fun value hvalue => (members.2 value hvalue).succeeds_tokens qualified named⟩
  | between inner lower upper =>
    rw [Condition.conjuncts, succeeds_bind_iff fun _ => succeeds_bind_iff fun _ =>
      succeeds_bind_pure]
    exact ⟨inner.succeeds_tokens qualified named, lower.succeeds_tokens qualified named,
      upper.succeeds_tokens qualified named⟩
  | hasKey =>
    rw [Condition.conjuncts, succeeds_bind_pure, ColumnRef.succeeds_tokens]
    exact ⟨qualified, named⟩

end

/-! ## Conditions that are put together -/

namespace Condition

variable {conditions : List Condition}

/-- A conjunction is rendered exactly if both of its parts are. -/
theorem succeeds_andAlso {left right : Condition} :
    Succeeds (left.andAlso right).conjuncts ↔
      Succeeds left.conjuncts ∧ Succeeds right.conjuncts := by
  have hparts : ∀ condition : Condition, (∀ part ∈ condition.parts, Succeeds part.conjuncts) ↔
      Succeeds condition.conjuncts := by
    intro condition
    unfold parts
    split
    · rw [Condition.conjuncts, succeeds_allConjuncts]
    · exact List.forall_mem_singleton
  rw [andAlso, Condition.conjuncts, succeeds_allConjuncts, List.forall_mem_append, hparts, hparts]

/-- Conditions are joined to one that is rendered if they are. -/
theorem succeeds_all (h : ∀ condition ∈ conditions, Succeeds condition.conjuncts) :
    ∀ condition ∈ all conditions, Succeeds condition.conjuncts := by
  unfold all
  split
  · simp
  · rintro _ ⟨⟩
    exact h _ List.mem_cons_self
  · rintro _ ⟨⟩
    rw [Condition.conjuncts, succeeds_allConjuncts]
    exact h

end Condition

/-! ## Statements -/

theorem succeeds_namesTokens {separator : String} {names : List String} :
    Succeeds (namesTokens separator names) ↔ ∀ name ∈ names, IsName name := by
  rw [namesTokens, succeeds_bind_pure, succeeds_mapM]
  simp

theorem succeeds_sourcesTokens {sources : List String} :
    Succeeds (sourcesTokens sources) ↔ ∀ source ∈ sources, IsName source := by
  rw [sourcesTokens, succeeds_bind_pure, succeeds_mapM]
  simp

/-- What is returned is rendered exactly if its columns are. -/
theorem succeeds_returningTokens {columns : List Projection} :
    Succeeds (returningTokens columns) ↔ ∀ column ∈ columns, column.Renders := by
  rw [returningTokens, succeeds_bind_pure, Projection.succeeds_listTokens]

/-- A new row is rendered if its columns have names and its values and their sources are rendered. -/
theorem Record.succeeds_tokens {record : Record}
    (columns : ∀ entry ∈ record.entries, IsName entry.1 ∧ Succeeds entry.2.tokens)
    (sources : ∀ source ∈ record.sources, IsName source) : Succeeds record.tokens := by
  obtain ⟨_, hcolumns⟩ : Succeeds (namesTokens "," record.columns) :=
    succeeds_namesTokens.2 (List.forall_mem_map.2 fun entry hentry => (columns entry hentry).1)
  obtain ⟨_, hvalues⟩ : Succeeds (Expr.listTokens (record.entries.map (·.2))) :=
    Expr.succeeds_listTokens.2 (List.forall_mem_map.2 fun entry hentry => (columns entry hentry).2)
  unfold tokens
  split
  · exact succeeds_pure
  · refine succeeds_bind.2 ⟨_, hcolumns, succeeds_bind.2 ⟨_, hvalues, ?_⟩⟩
    dsimp only
    split
    · exact succeeds_pure
    · obtain ⟨_, hsources⟩ := succeeds_sourcesTokens.2 sources
      exact succeeds_bind.2 ⟨_, hsources, succeeds_pure⟩

/-- An insert is rendered exactly if its table has a name, and its record and what it returns are
rendered. -/
theorem Insert.succeeds_tokens {table : String} {record : Record} {returning : List Projection} :
    Succeeds (Insert.tokens ⟨some table, some record, returning⟩) ↔
      IsName table ∧ Succeeds record.tokens ∧ ∀ column ∈ returning, column.Renders := by
  rw [← succeeds_nameTokens, ← succeeds_returningTokens]
  refine succeeds_bind_iff fun _ => ?_
  exact succeeds_bind_iff fun _ => succeeds_bind_pure

/-- A delete is rendered exactly if its table has a name, and its condition and what it returns are
rendered. -/
theorem Delete.succeeds_tokens {table : String} {condition? : Option Condition}
    {returning : List Projection} :
    Succeeds (Delete.tokens ⟨some table, condition?, returning⟩) ↔
      IsName table ∧ (∀ condition ∈ condition?, Succeeds condition.conjuncts) ∧
        ∀ column ∈ returning, column.Renders := by
  rw [← succeeds_nameTokens, ← Condition.succeeds_clauseTokens, ← succeeds_returningTokens]
  refine succeeds_bind_iff fun _ => ?_
  exact succeeds_bind_iff fun _ => succeeds_bind_pure

/-- An update with assignments is rendered exactly if its names are names and its parts are
rendered. -/
theorem Update.succeeds_tokens {table : String} {assignments : List Assignment}
    {sources : List String} {condition? : Option Condition} {returning : List Projection}
    (nonempty : assignments ≠ []) :
    Succeeds (Update.tokens ⟨some table, assignments, sources, condition?, returning⟩) ↔
      IsName table ∧ (∀ assignment ∈ assignments, assignment.target.IsNamed ∧
        Succeeds assignment.value.tokens) ∧
        (∀ source ∈ Update.allSources ⟨some table, assignments, sources, condition?, returning⟩,
          IsName source) ∧
        (∀ condition ∈ condition?, Succeeds condition.conjuncts) ∧
        ∀ column ∈ returning, column.Renders := by
  have hassignments : Succeeds (assignments.mapM Assignment.tokens) ↔
      ∀ assignment ∈ assignments, assignment.target.IsNamed ∧
        Succeeds assignment.value.tokens := by
    rw [succeeds_mapM]
    refine forall₂_congr fun assignment _ => ?_
    rw [Assignment.tokens, succeeds_bind_iff fun _ => succeeds_bind_pure,
      ColumnRef.succeeds_tokens]
  have hempty : assignments.isEmpty = false := by simpa using nonempty
  simp only [Update.tokens, hempty]
  rw [← succeeds_nameTokens, ← hassignments, ← succeeds_sourcesTokens,
    ← Condition.succeeds_clauseTokens, ← succeeds_returningTokens]
  refine succeeds_bind_iff fun _ => ?_
  refine succeeds_bind_iff fun _ => ?_
  refine succeeds_bind_iff fun _ => ?_
  refine succeeds_bind_iff fun _ => ?_
  exact succeeds_bind_pure

/-! ## Chains -/

namespace Chain

variable {stem : String} (stemmed : stem.toList.contains nul = false)

include stemmed

/-- The statements of a chain are rendered under their names exactly if each of them is. -/
theorem succeeds_namedTokens {index : Nat} {statements : List Statement} :
    Succeeds (namedTokens stem index statements) ↔
      ∀ statement ∈ statements, Succeeds statement.tokens := by
  induction statements generalizing index with
  | nil => simp [namedTokens]
  | cons statement rest ih =>
    have hname := succeeds_nameTokens.2 (isName_numberedName stemmed index)
    rw [namedTokens, List.forall_mem_cons, ← ih,
      succeeds_bind_iff fun _ => succeeds_bind_iff fun _ => succeeds_bind_pure]
    exact and_iff_right hname

/-- A chain is rendered exactly if it has statements and each of them is rendered. -/
theorem succeeds_tokens {statements : List Statement} :
    Succeeds (Chain.tokens ⟨stem, statements⟩) ↔
      statements ≠ [] ∧ ∀ statement ∈ statements, Succeeds statement.tokens := by
  rcases List.eq_nil_or_concat statements with rfl | ⟨named, body, rfl⟩
  · exact iff_of_false not_succeeds_error fun h => h.1 rfl
  · have hparts : Succeeds (Chain.tokens ⟨stem, named ++ [body]⟩) ↔
        (∀ statement ∈ named, Succeeds statement.tokens) ∧ Succeeds body.tokens := by
      simp only [tokens, List.getLast?_append, List.getLast?_singleton, Option.some_or,
        List.dropLast_concat]
      cases named with
      | nil => simp
      | cons first rest =>
        rw [← succeeds_namedTokens stemmed]
        exact succeeds_bind_iff fun _ => succeeds_bind_pure
    rw [List.concat_eq_append, hparts, List.forall_mem_append, List.forall_mem_singleton]
    exact (and_iff_right (by simp)).symm

end Chain

end RelationalQuery.Sql
