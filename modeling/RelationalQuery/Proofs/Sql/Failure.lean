import RelationalQuery.Proofs.Failure
import RelationalQuery.Sql.Chain

/-!
# Trees that cannot be rendered

Rendering looks at names and at the parts of statements and at nothing else, so every error of it is
a structural one, whatever the tree holds.

Main definitions:

- `QueryError.IsStructural` says that an error is a structural one.

Main results:

- `Expr.errsOnly_tokens`, `Condition.errsOnly_conjuncts` and `Select.errsOnly_tokens`: rendering a
  tree has only structural errors.
- `Chain.errsOnly_tokens`: so has rendering a chain.
-/

namespace RelationalQuery

/-- A statement or a table cannot be built. -/
def QueryError.IsStructural (e : QueryError) : Prop := ∃ cause, e = .structural cause

namespace Sql

/-! ## Names and columns -/

/-- A name fails only because nothing can be built from it. -/
theorem errsOnly_nameTokens {name : String} :
    ErrsOnly QueryError.IsStructural (nameTokens name) := by
  refine ErrsOnly.bind_pure ?_
  unfold Identifier.ofText
  split
  · split
    · exact errsOnly_ok
    · exact errsOnly_error ⟨_, rfl⟩
  · exact errsOnly_error ⟨_, rfl⟩

/-- So does a qualified name. -/
theorem errsOnly_qualifiedTokens {qualifier? : Option String} {name : String} :
    ErrsOnly QueryError.IsStructural (qualifiedTokens qualifier? name) := by
  cases qualifier? with
  | none => exact errsOnly_nameTokens
  | some qualifier => exact errsOnly_nameTokens.bind fun _ _ => errsOnly_nameTokens.bind_pure

namespace ColumnRef

variable {column : ColumnRef}

theorem errsOnly_tokens : ErrsOnly QueryError.IsStructural column.tokens :=
  errsOnly_qualifiedTokens.bind_pure

theorem errsOnly_textTokens : ErrsOnly QueryError.IsStructural column.textTokens :=
  errsOnly_qualifiedTokens.bind_pure

/-- An operation fails only by the name of its target. -/
theorem errsOnly_operationTokens {operator : ArithmeticOperator} {operand : Parameter}
    {numericType : String} :
    ErrsOnly QueryError.IsStructural (column.operationTokens operator operand numericType) := by
  unfold operationTokens
  split
  · exact errsOnly_tokens.bind_pure
  · exact errsOnly_textTokens.bind_pure

end ColumnRef

theorem errsOnly_aliasedTokens {tokens : List Token} {alias? : Option String} :
    ErrsOnly QueryError.IsStructural (aliasedTokens tokens alias?) := by
  cases alias? with
  | none => exact errsOnly_pure
  | some label => exact errsOnly_nameTokens.bind_pure

/-- A union fails only by the names of its sources. -/
theorem errsOnly_unionTokens {sources : List String} :
    ErrsOnly QueryError.IsStructural (unionTokens sources) :=
  ErrsOnly.bind_pure (.mapM fun _ _ => errsOnly_nameTokens.bind_pure)

/-! ## Trees -/

mutual

/-- Rendering an expression has only structural errors. -/
theorem Expr.errsOnly_tokens : ∀ expr : Expr, ErrsOnly QueryError.IsStructural expr.tokens
  | .null | .parameter _ | .raw _ => by
    rw [Expr.tokens]
    exact errsOnly_ok
  | .column _ => by
    rw [Expr.tokens]
    exact ColumnRef.errsOnly_tokens
  | .columnText _ => by
    rw [Expr.tokens]
    exact ColumnRef.errsOnly_textTokens
  | .reference _ _ => by
    rw [Expr.tokens]
    exact errsOnly_qualifiedTokens
  | .operation _ _ _ _ => by
    rw [Expr.tokens]
    exact ColumnRef.errsOnly_operationTokens
  | .cast value _ => by
    rw [Expr.tokens]
    exact value.errsOnly_tokens.bind_pure
  | .object entries => by
    rw [Expr.tokens]
    exact (Expr.errsOnly_entryTokens entries).bind_pure
  | .aggregate value order => by
    rw [Expr.tokens]
    exact value.errsOnly_tokens.bind fun _ _ => (OrderTerm.errsOnly_listTokens order).bind_pure
  | .merge _ entries => by
    rw [Expr.tokens]
    exact ColumnRef.errsOnly_tokens.bind fun _ _ => (Expr.errsOnly_entryTokens entries).bind_pure
  | .subquery query => by
    rw [Expr.tokens]
    exact query.errsOnly_tokens.bind_pure

/-- So do the entries of an object. -/
theorem Expr.errsOnly_entryTokens : ∀ entries : List (String × Expr),
    ErrsOnly QueryError.IsStructural (Expr.entryTokens entries)
  | [] => by
    rw [Expr.entryTokens]
    exact errsOnly_ok
  | (_, value) :: rest => by
    rw [Expr.entryTokens]
    exact value.errsOnly_tokens.bind fun _ _ => (Expr.errsOnly_entryTokens rest).bind_pure

/-- So do the members of a list. -/
theorem Expr.errsOnly_listTokens : ∀ exprs : List Expr,
    ErrsOnly QueryError.IsStructural (Expr.listTokens exprs)
  | [] => by
    rw [Expr.listTokens]
    exact errsOnly_ok
  | expr :: rest => by
    rw [Expr.listTokens]
    exact expr.errsOnly_tokens.bind fun _ _ => (Expr.errsOnly_listTokens rest).bind_pure

/-- So do the terms of an order. -/
theorem OrderTerm.errsOnly_listTokens : ∀ order : List OrderTerm,
    ErrsOnly QueryError.IsStructural (OrderTerm.listTokens order)
  | [] => by
    rw [OrderTerm.listTokens]
    exact errsOnly_ok
  | ⟨expr, _⟩ :: rest => by
    rw [OrderTerm.listTokens]
    exact expr.errsOnly_tokens.bind fun _ _ => (OrderTerm.errsOnly_listTokens rest).bind_pure

/-- So do columns. -/
theorem Projection.errsOnly_listTokens : ∀ columns : List Projection,
    ErrsOnly QueryError.IsStructural (Projection.listTokens columns)
  | [] => by
    rw [Projection.listTokens]
    exact errsOnly_ok
  | ⟨expr, _⟩ :: rest => by
    rw [Projection.listTokens]
    exact expr.errsOnly_tokens.bind fun _ _ => errsOnly_aliasedTokens.bind fun _ _ =>
      (Projection.errsOnly_listTokens rest).bind_pure

/-- Rendering a condition has only structural errors. -/
theorem Condition.errsOnly_conjuncts : ∀ condition : Condition,
    ErrsOnly QueryError.IsStructural condition.conjuncts
  | .and conditions => by
    rw [Condition.conjuncts]
    exact Condition.errsOnly_allConjuncts conditions
  | .or conditions => by
    rw [Condition.conjuncts]
    exact (Condition.errsOnly_listTokens conditions).bind_pure
  | .not condition => by
    rw [Condition.conjuncts]
    exact condition.errsOnly_conjuncts.bind_pure
  | .compare left _ right => by
    rw [Condition.conjuncts]
    exact left.errsOnly_tokens.bind fun _ _ => right.errsOnly_tokens.bind_pure
  | .nullCheck expr _ => by
    rw [Condition.conjuncts]
    exact expr.errsOnly_tokens.bind_pure
  | .inList _ [] | .raw _ => by
    rw [Condition.conjuncts]
    exact errsOnly_ok
  | .inList expr (value :: values) => by
    rw [Condition.conjuncts]
    exact expr.errsOnly_tokens.bind fun _ _ => value.errsOnly_tokens.bind fun _ _ =>
      (Expr.errsOnly_listTokens values).bind_pure
  | .between expr low high => by
    rw [Condition.conjuncts]
    exact expr.errsOnly_tokens.bind fun _ _ => low.errsOnly_tokens.bind fun _ _ =>
      high.errsOnly_tokens.bind_pure
  | .startsWith expr other | .containsText expr other => by
    rw [Condition.conjuncts]
    exact expr.errsOnly_tokens.bind fun _ _ => other.errsOnly_tokens.bind_pure
  | .hasKey _ _ => by
    rw [Condition.conjuncts]
    exact ColumnRef.errsOnly_tokens.bind_pure
  | .exists query _ => by
    rw [Condition.conjuncts]
    exact query.errsOnly_tokens.bind_pure

theorem Condition.errsOnly_allConjuncts : ∀ conditions : List Condition,
    ErrsOnly QueryError.IsStructural (Condition.allConjuncts conditions)
  | [] => by
    rw [Condition.allConjuncts]
    exact errsOnly_ok
  | condition :: rest => by
    rw [Condition.allConjuncts]
    exact condition.errsOnly_conjuncts.bind fun _ _ =>
      (Condition.errsOnly_allConjuncts rest).bind_pure

theorem Condition.errsOnly_listTokens : ∀ conditions : List Condition,
    ErrsOnly QueryError.IsStructural (Condition.listTokens conditions)
  | [] => by
    rw [Condition.listTokens]
    exact errsOnly_ok
  | condition :: rest => by
    rw [Condition.listTokens]
    exact condition.errsOnly_conjuncts.bind fun _ _ =>
      (Condition.errsOnly_listTokens rest).bind_pure

/-- Rows fail only by what they are built from. -/
theorem FromItem.errsOnly_tokens : ∀ item : FromItem,
    ErrsOnly QueryError.IsStructural item.tokens
  | .table _ _ => by
    rw [FromItem.tokens]
    exact errsOnly_nameTokens.bind fun _ _ => errsOnly_aliasedTokens
  | .subquery query _ => by
    rw [FromItem.tokens]
    exact query.errsOnly_tokens.bind fun _ _ => errsOnly_aliasedTokens
  | .unionAll _ _ => by
    rw [FromItem.tokens]
    exact errsOnly_unionTokens.bind fun _ _ => errsOnly_aliasedTokens

theorem FromItem.errsOnly_clauseTokens : ∀ item? : Option FromItem,
    ErrsOnly QueryError.IsStructural (FromItem.clauseTokens item?)
  | none => by
    rw [FromItem.clauseTokens]
    exact errsOnly_ok
  | some item => by
    rw [FromItem.clauseTokens]
    exact item.errsOnly_tokens.bind_pure

theorem Condition.errsOnly_clauseTokens : ∀ condition? : Option Condition,
    ErrsOnly QueryError.IsStructural (Condition.clauseTokens condition?)
  | none => by
    rw [Condition.clauseTokens]
    exact errsOnly_ok
  | some condition => by
    rw [Condition.clauseTokens]
    exact condition.errsOnly_conjuncts.bind_pure

/-- Rendering a selection has only structural errors. -/
theorem Select.errsOnly_tokens : ∀ select : Select, ErrsOnly QueryError.IsStructural select.tokens
  | ⟨columns, from?, where?, order, _, _⟩ => by
    rw [Select.tokens]
    exact (Projection.errsOnly_listTokens columns).bind fun _ _ =>
      (FromItem.errsOnly_clauseTokens from?).bind fun _ _ =>
        (Condition.errsOnly_clauseTokens where?).bind fun _ _ =>
          (OrderTerm.errsOnly_listTokens order).bind_pure

end

/-! ## Statements -/

theorem errsOnly_namesTokens {separator : String} {names : List String} :
    ErrsOnly QueryError.IsStructural (namesTokens separator names) :=
  ErrsOnly.bind_pure (.mapM fun _ _ => errsOnly_nameTokens)

theorem errsOnly_sourcesTokens {sources : List String} :
    ErrsOnly QueryError.IsStructural (sourcesTokens sources) :=
  ErrsOnly.bind_pure (.mapM fun _ _ => errsOnly_nameTokens)

theorem errsOnly_returningTokens {columns : List Projection} :
    ErrsOnly QueryError.IsStructural (returningTokens columns) :=
  (Projection.errsOnly_listTokens columns).bind_pure

/-- A record fails only because it has no columns, or by what it is built from. -/
theorem Record.errsOnly_tokens (record : Record) :
    ErrsOnly QueryError.IsStructural record.tokens := by
  unfold Record.tokens
  split
  · exact errsOnly_pure
  · refine errsOnly_namesTokens.bind fun _ _ => (Expr.errsOnly_listTokens _).bind fun _ _ => ?_
    split
    · exact errsOnly_pure
    · exact errsOnly_sourcesTokens.bind fun _ _ => errsOnly_pure

/-- An insert fails only because a part is missing, or by what it is built from. -/
theorem Insert.errsOnly_tokens (insert : Insert) :
    ErrsOnly QueryError.IsStructural insert.tokens := by
  unfold Insert.tokens
  split
  · split
    · exact errsOnly_nameTokens.bind fun _ _ => (Record.errsOnly_tokens _).bind fun _ _ =>
        errsOnly_returningTokens.bind_pure
    · exact errsOnly_error ⟨_, rfl⟩
  · exact errsOnly_error ⟨_, rfl⟩

theorem Assignment.errsOnly_tokens (assignment : Assignment) :
    ErrsOnly QueryError.IsStructural assignment.tokens :=
  ColumnRef.errsOnly_tokens.bind fun _ _ => assignment.value.errsOnly_tokens.bind_pure

/-- So does an update. -/
theorem Update.errsOnly_tokens (update : Update) :
    ErrsOnly QueryError.IsStructural update.tokens := by
  unfold Update.tokens
  split
  · split
    · exact errsOnly_error ⟨_, rfl⟩
    · exact errsOnly_nameTokens.bind fun _ _ =>
        (ErrsOnly.mapM fun assignment _ => assignment.errsOnly_tokens).bind fun _ _ =>
          errsOnly_sourcesTokens.bind fun _ _ =>
            (Condition.errsOnly_clauseTokens _).bind fun _ _ => errsOnly_returningTokens.bind_pure
  · exact errsOnly_error ⟨_, rfl⟩

/-- So does a delete. -/
theorem Delete.errsOnly_tokens (delete : Delete) :
    ErrsOnly QueryError.IsStructural delete.tokens := by
  unfold Delete.tokens
  split
  · exact errsOnly_nameTokens.bind fun _ _ =>
      (Condition.errsOnly_clauseTokens _).bind fun _ _ => errsOnly_returningTokens.bind_pure
  · exact errsOnly_error ⟨_, rfl⟩

/-- Statements fail only because they cannot be built. -/
theorem Statement.errsOnly_tokens (statement : Statement) :
    ErrsOnly QueryError.IsStructural statement.tokens := by
  cases statement with
  | select s => exact s.errsOnly_tokens
  | insert s => exact s.errsOnly_tokens
  | update s => exact s.errsOnly_tokens
  | delete s => exact s.errsOnly_tokens

namespace Chain

theorem errsOnly_namedTokens {stem : String} {index : Nat} {statements : List Statement} :
    ErrsOnly QueryError.IsStructural (namedTokens stem index statements) := by
  induction statements generalizing index with
  | nil => exact errsOnly_ok
  | cons statement rest ih =>
    exact errsOnly_nameTokens.bind fun _ _ => statement.errsOnly_tokens.bind fun _ _ => ih.bind_pure

/-- Rendering a chain has only structural errors. -/
theorem errsOnly_tokens (chain : Chain) : ErrsOnly QueryError.IsStructural chain.tokens := by
  unfold Chain.tokens
  split
  · exact errsOnly_error ⟨_, rfl⟩
  · rename_i body _
    split
    · exact body.errsOnly_tokens
    · exact errsOnly_namedTokens.bind fun _ _ => body.errsOnly_tokens.bind_pure

end Chain

end Sql

end RelationalQuery
