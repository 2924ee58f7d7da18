import RelationalQuery.Proofs.Sql.WellScoped

/-!
# Expressions and conditions on a column

Entries of columns in filters, select trees and updates are compiled to expressions and conditions
that read the column, values inside it and parameters, but no other column and no rows.

Main definitions:

- `Expr.OnColumn` and `Condition.OnColumn` say this of expressions and conditions.

Main results:

- `Expr.OnColumn.wellScoped` and `Condition.OnColumn.wellScoped`: they are well scoped wherever the
  column has a value.
-/

namespace RelationalQuery.Sql

/-- An expression reads a column, or values inside it, and nothing else. -/
inductive Expr.OnColumn (qualifier? : Option String) (name : String) : Expr → Prop
  | null : OnColumn qualifier? name .null
  | parameter {value : Parameter} : OnColumn qualifier? name (.parameter value)
  | column {path : List String} : OnColumn qualifier? name (.column ⟨qualifier?, name, path⟩)
  | columnText {path : List String} : OnColumn qualifier? name (.columnText ⟨qualifier?, name, path⟩)
  | object {entries : List (String × Expr)}
      (values : ∀ entry ∈ entries, OnColumn qualifier? name entry.2) :
      OnColumn qualifier? name (.object entries)
  | operation {path : List String} {operator : ArithmeticOperator} {operand : Parameter}
      {numericType : String} :
      OnColumn qualifier? name (.operation ⟨qualifier?, name, path⟩ operator operand numericType)
  | cast {value : Expr} {type : String} (inner : OnColumn qualifier? name value) :
      OnColumn qualifier? name (.cast value type)
  | merge {path : List String} {entries : List (String × Expr)}
      (values : ∀ entry ∈ entries, OnColumn qualifier? name entry.2) :
      OnColumn qualifier? name (.merge ⟨qualifier?, name, path⟩ entries)
  | raw {text : String} (columnFree : text ∈ columnFreeTexts) : OnColumn qualifier? name (.raw text)

/-- A condition reads a column, or values inside it, and nothing else. -/
inductive Condition.OnColumn (qualifier? : Option String) (name : String) : Condition → Prop
  | not {condition : Condition} (inner : OnColumn qualifier? name condition) :
      OnColumn qualifier? name (.not condition)
  | compare {left right : Expr} {comparison : Comparison} (first : left.OnColumn qualifier? name)
      (second : right.OnColumn qualifier? name) :
      OnColumn qualifier? name (.compare left comparison right)
  | nullCheck {expr : Expr} {isNull : Bool} (inner : expr.OnColumn qualifier? name) :
      OnColumn qualifier? name (.nullCheck expr isNull)
  | inList {expr : Expr} {values : List Expr} (inner : expr.OnColumn qualifier? name)
      (members : ∀ value ∈ values, value.OnColumn qualifier? name) :
      OnColumn qualifier? name (.inList expr values)
  | between {expr low high : Expr} (inner : expr.OnColumn qualifier? name)
      (lower : low.OnColumn qualifier? name) (upper : high.OnColumn qualifier? name) :
      OnColumn qualifier? name (.between expr low high)
  | startsWith {expr lead : Expr} (inner : expr.OnColumn qualifier? name)
      (start : lead.OnColumn qualifier? name) : OnColumn qualifier? name (.startsWith expr lead)
  | containsText {expr needle : Expr} (inner : expr.OnColumn qualifier? name)
      (part : needle.OnColumn qualifier? name) : OnColumn qualifier? name (.containsText expr needle)
  | hasKey {path : List String} {key : String} :
      OnColumn qualifier? name (.hasKey ⟨qualifier?, name, path⟩ key)

section

variable {catalog : Catalog} {scope : Scope Unit} {qualifier? : Option String} {name : String}
  (resolves : scope.resolve qualifier? name = some ())

include resolves

/-- An expression on a column is well scoped where the column has a value. -/
theorem Expr.OnColumn.wellScoped {expr : Expr} (h : expr.OnColumn qualifier? name) :
    expr.WellScoped catalog scope := by
  induction h with
  | null => exact .null
  | parameter => exact .parameter
  | column => exact .column resolves
  | columnText => exact .columnText resolves
  | object _ ih => exact .object ih
  | operation => exact .operation resolves
  | cast _ ih => exact .cast ih
  | merge _ ih => exact .merge resolves ih
  | raw columnFree => exact .raw columnFree

/-- So is a condition on a column. -/
theorem Condition.OnColumn.wellScoped {condition : Condition}
    (h : condition.OnColumn qualifier? name) : condition.WellScoped catalog scope := by
  induction h with
  | not _ ih => exact .not ih
  | compare first second => exact .compare (first.wellScoped resolves) (second.wellScoped resolves)
  | nullCheck inner => exact .nullCheck (inner.wellScoped resolves)
  | inList inner members =>
    exact .inList (inner.wellScoped resolves) fun value hvalue =>
      (members value hvalue).wellScoped resolves
  | between inner lower upper =>
    exact .between (inner.wellScoped resolves) (lower.wellScoped resolves)
      (upper.wellScoped resolves)
  | startsWith inner start =>
    exact .startsWith (inner.wellScoped resolves) (start.wellScoped resolves)
  | containsText inner part =>
    exact .containsText (inner.wellScoped resolves) (part.wellScoped resolves)
  | hasKey => exact .hasKey resolves

end

end RelationalQuery.Sql
