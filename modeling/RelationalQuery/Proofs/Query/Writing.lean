import RelationalQuery.Proofs.Filter.WellScoped
import RelationalQuery.Proofs.Sql.References
import RelationalQuery.Query.Writing

/-!
# Written values are literal

The values of a record are bound by the schema of their columns, so that the columns exist and the
values do not depend on any row.

Main definitions:

- `Expr.IsLiteral` says that an expression does not depend on any row.
- `Record.Fits` says that a record has columns of a schema with literal values.

Main results:

- `encodedRecord_fits`: records whose values are bound by a schema fit it.
- `columns_wellScoped`: the columns of a changed table can be returned.
-/

namespace RelationalQuery

open Sql (Catalog Expr Item Projection Record Scope)

/-! ## Literal values -/

/-- The value of an expression does not depend on any row. -/
def Sql.Expr.IsLiteral (expr : Expr) : Prop := expr = .null ∨ ∃ value, expr = .parameter value

/-- The columns of a record exist and its values are literal. -/
def Sql.Record.Fits (record : Record) (schema : ObjectSchema) : Prop :=
  ∀ entry ∈ record.entries, schema.contains entry.1 = true ∧ entry.2.IsLiteral

/-- A literal value reads no column. -/
theorem Sql.Expr.IsLiteral.onColumn {expr : Expr} (h : expr.IsLiteral) {qualifier? : Option String}
    {name : String} : expr.OnColumn qualifier? name := by
  rcases h with rfl | ⟨value, rfl⟩
  · exact .null
  · exact .parameter

/-- An expression on a column refers to no statements. -/
theorem Sql.Expr.OnColumn.sources_eq_nil {expr : Expr} {qualifier? : Option String} {name : String}
    (h : expr.OnColumn qualifier? name) : expr.sources = [] := by
  induction h with
  | null | parameter | column | columnText | operation | raw => rfl
  | cast _ ih => rw [Expr.sources, ih]
  | object _ ih | merge _ ih =>
    rw [Expr.sources, List.eq_nil_iff_forall_not_mem]
    intro source hsource
    obtain ⟨entry, hentry, hmem⟩ := Expr.mem_entrySources.1 hsource
    rw [ih entry hentry] at hmem
    cases hmem

namespace Sql.Record

/-- A column that is set is new, or what it was. -/
theorem mem_set {record : Record} {column : String} {value : Expr} {entry : String × Expr}
    (h : entry ∈ (record.set column value).entries) :
    entry = (column, value) ∨ entry ∈ record.entries :=
  Entries.mem_put h

/-- Columns that are set are new, or what they were. -/
theorem mem_setAll {record : Record} {entries : List (String × Expr)} {entry : String × Expr}
    (h : entry ∈ (record.setAll entries).entries) : entry ∈ entries ∨ entry ∈ record.entries := by
  induction entries generalizing record with
  | nil =>
    right
    exact h
  | cons first rest ih =>
    have hrest : entry ∈ ((record.set first.1 first.2).setAll rest).entries := h
    rcases ih hrest with hrest | hset
    · left
      exact List.mem_cons_of_mem _ hrest
    · rcases mem_set hset with rfl | hold
      · left
        exact List.mem_cons_self
      · right
        exact hold

end Sql.Record

/-- The value of a field is the literal null, or a parameter that holds it as the field says. -/
theorem fieldExpr_eq_ok {value : Json} {field : Field} {expr : Expr}
    (h : fieldExpr value field = .ok expr) :
    if value.isNull then expr = .null
    else ∃ hint?, Parameter.ofValue value (some field) = .ok ⟨value, hint?⟩ ∧
      expr = .parameter ⟨value, hint?⟩ := by
  unfold fieldExpr at h
  split at h
  · rename_i hnull
    rw [if_pos hnull]
    exact (Except.ok.inj h).symm
  · rename_i hnull
    rw [if_neg hnull]
    obtain ⟨⟨value, hint?⟩, hvalue, rfl⟩ := map_eq_ok_iff.1 h
    obtain rfl := Parameter.value_of_ofValue hvalue
    exact ⟨hint?, hvalue, rfl⟩

/-- A value is written as a literal null or as a parameter. -/
theorem fieldExpr_isLiteral {value : Json} {field : Field} {expr : Expr}
    (h : fieldExpr value field = .ok expr) : expr.IsLiteral := by
  have hcases := fieldExpr_eq_ok h
  split at hcases
  · exact .inl hcases
  · obtain ⟨_, -, hexpr⟩ := hcases
    exact .inr ⟨_, hexpr⟩

/-- An encoded record has columns of its schema, with literal values. -/
theorem encodedRecord_fits {members : Members} {schema : ObjectSchema} {path : String}
    {record : Record} (h : encodedRecord members schema path = .ok record) :
    record.Fits schema := by
  simp only [encodedRecord, bind_eq_ok_iff, pure_eq_ok_iff] at h
  obtain ⟨entries, hentries, rfl⟩ := h
  intro entry hentry
  rcases Record.mem_setAll hentry with hentry | hentry
  · obtain ⟨member, -, hmember⟩ := exists_mem_of_forall₂ (forall₂_of_mapM_eq_ok hentries) hentry
    simp only [bind_eq_ok_iff, pure_eq_ok_iff] at hmember
    obtain ⟨field, hfield, value, hvalue, rfl⟩ := hmember
    exact ⟨ObjectSchema.contains_of_field hfield, fieldExpr_isLiteral hvalue⟩
  · simp [Record.empty] at hentry

/-! ## Returned columns -/

/-- A column is returned because a later statement is linked by it, or because the trees require
it. -/
theorem mem_columnsReadLater {targets required : List String} {isProjected : Bool}
    {column : String} :
    column ∈ (targets ++ if isProjected then required else []).eraseDups ↔
      column ∈ targets ∨ isProjected = true ∧ column ∈ required := by
  rw [List.mem_eraseDups, List.mem_append]
  cases isProjected <;> simp

/-- Columns of a changed table can be returned. -/
theorem columns_wellScoped {catalog : Catalog} {name : String} {schema : ObjectSchema}
    {columns : List String}
    (known : ∀ column ∈ columns, schema.contains column = true) :
    ∀ column ∈ columns.map Projection.column,
      column.expr.WellScoped catalog [[.ofColumns name schema.columns]] := by
  intro column hcolumn
  obtain ⟨text, htext, rfl⟩ := List.mem_map.1 hcolumn
  have hprovided := Item.column?_ofColumns schema.nodup_columns
    (ObjectSchema.mem_columns.2 (known text htext)) name
  have hresolves : Scope.resolve (Scope.push [] (.ofColumns name schema.columns)) none text =
      some () :=
    Scope.resolve_push_none hprovided
  exact .column hresolves

end RelationalQuery
