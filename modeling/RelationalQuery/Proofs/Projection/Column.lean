import RelationalQuery.Projection.Column
import RelationalQuery.Projection.Order
import RelationalQuery.Proofs.Coherence
import RelationalQuery.Proofs.Sql.OnColumn

/-!
# Expressions of columns in projections and orders

The entry of a column in a select tree, with all keys below it, is compiled to output fields of this
column alone, and the entry of an order to the column.

Main results:

- `columnFields_onColumn`: the output fields of the entry of a column read it and nothing else.
- `orderTerms_onColumn`: the keys of an order are columns of the table.
-/

namespace RelationalQuery

open Sql (ColumnRef Expr OrderTerm)

mutual

/-- The output field of the entry of a key reads the column and nothing else. -/
theorem nestedEntry_onColumn : ∀ {field? : Option Field} {target : ColumnRef}
    {key keyPath : String} {entry : Json} {fields : List (String × Expr)},
      nestedEntry field? target key keyPath entry = .ok fields →
        ∀ field ∈ fields, field.2.OnColumn target.qualifier? target.name
  | field?, target, key, keyPath, .bool false, fields, h => by
    rw [nestedEntry, Except.ok.injEq] at h
    rw [← h]
    exact List.forall_mem_nil _
  | field?, target, key, keyPath, .bool true, fields, h => by
    rw [nestedEntry, Except.ok.injEq] at h
    rw [← h, List.forall_mem_singleton]
    exact .column
  | some field, target, key, keyPath, .object members, fields, h => by
    rw [nestedEntry] at h
    split at h
    · simp only [bind_eq_ok_iff, pure_eq_ok_iff] at h
      obtain ⟨nested, hnested, rfl⟩ := h
      rw [List.forall_mem_singleton]
      exact .object (nestedFields_onColumn hnested)
    · simp at h
  | none, target, key, keyPath, .object members, fields, h
  | field?, target, key, keyPath, .null, fields, h
  | field?, target, key, keyPath, .number _, fields, h
  | field?, target, key, keyPath, .string _, fields, h
  | field?, target, key, keyPath, .array _, fields, h => by
    simp [nestedEntry] at h

/-- The entries of the object of a select tree read the column and nothing else. -/
theorem nestedFields_onColumn : ∀ {field : Field} {target : ColumnRef} {path : String}
    {members : List (String × Json)} {fields : List (String × Expr)},
      nestedFields field target path members = .ok fields →
        ∀ field ∈ fields, field.2.OnColumn target.qualifier? target.name
  | field, target, path, [], fields, h => by
    rw [nestedFields, Except.ok.injEq] at h
    rw [← h]
    exact List.forall_mem_nil _
  | field, target, path, (key, entry) :: rest, fields, h => by
    simp only [nestedFields, bind_eq_ok_iff, pure_eq_ok_iff] at h
    obtain ⟨child?, -, first, hfirst, others, hothers, rfl⟩ := h
    -- A key inside the column is read as a part of the column.
    have hinside := nestedEntry_onColumn hfirst
    rw [List.forall_mem_append]
    exact ⟨hinside, nestedFields_onColumn hothers⟩

end

/-- The entry of a key has one output field under that key, unless it is not shown. -/
theorem nestedEntry_names {field? : Option Field} {target : ColumnRef} {key keyPath : String}
    {entry : Json} {fields : List (String × Expr)}
    (h : nestedEntry field? target key keyPath entry = .ok fields) :
    fields.map (·.1) = if entry = .bool false then [] else [key] := by
  cases entry with
  | bool shown =>
    cases shown with
    | false =>
      rw [nestedEntry, Except.ok.injEq] at h
      rw [← h, if_pos rfl]
      rfl
    | true =>
      rw [nestedEntry, Except.ok.injEq] at h
      rw [← h, if_neg (by decide)]
      rfl
  | object members =>
    rw [if_neg Json.noConfusion]
    cases field? with
    | none => simp [nestedEntry] at h
    | some field =>
      rw [nestedEntry] at h
      split at h
      · simp only [bind_eq_ok_iff, pure_eq_ok_iff] at h
        obtain ⟨nested, -, rfl⟩ := h
        rfl
      · simp at h
  | null | number _ | string _ | array _ => simp [nestedEntry] at h

/-- The entry of a column has one output field under its name, unless it is not shown. -/
theorem columnFields_names {table : Table} {scope path key : String} {value : Json}
    {fields : List (String × Expr)} (h : columnFields table scope path key value = .ok fields) :
    fields.map (·.1) = if value = .bool false then [] else [key] := by
  simp only [columnFields, bind_eq_ok_iff] at h
  obtain ⟨field, -, h⟩ := h
  exact nestedEntry_names h

/-- A column that is not shown has no output fields. -/
theorem columnFields_hidden {table : Table} {scope path key : String} {value : Json}
    {fields : List (String × Expr)} (hidden : value = .bool false)
    (h : columnFields table scope path key value = .ok fields) : fields = [] := by
  have hnames := columnFields_names h
  rwa [if_pos hidden, List.map_eq_nil_iff] at hnames

/-- The output fields of the entry of a column read the column, which belongs to the table. -/
theorem columnFields_onColumn {table : Table} {scope path key : String} {value : Json}
    {fields : List (String × Expr)} (h : columnFields table scope path key value = .ok fields) :
    table.schema.contains key = true ∧ ∀ field ∈ fields, field.2.OnColumn (some scope) key := by
  simp only [columnFields, bind_eq_ok_iff] at h
  obtain ⟨field, hfield, h⟩ := h
  exact ⟨ObjectSchema.contains_of_field hfield, nestedEntry_onColumn h⟩

/-- The keys of an order are columns of the table. -/
theorem orderTerms_onColumn {value? : Option Json} {table : Table} {scope? : Option String}
    {path : String} {terms : List OrderTerm}
    (h : orderTerms? value? table scope? path = .ok terms) :
    ∀ term ∈ terms, ∃ key, table.schema.contains key = true ∧ term.expr.OnColumn scope? key := by
  intro term hterm
  cases value? with
  | none =>
    rw [orderTerms?, Except.ok.injEq] at h
    simp [← h] at hterm
  | some value =>
    simp only [orderTerms?, orderTerms, bind_eq_ok_iff] at h
    obtain ⟨objects, -, h⟩ := h
    obtain ⟨entry, -, hentry⟩ := exists_mem_of_forall₂ (forall₂_of_mapM_eq_ok h) hterm
    simp only [orderTerm, bind_eq_ok_iff] at hentry
    obtain ⟨field, hfield, hentry⟩ := hentry
    split at hentry
    · rw [pure_eq_ok_iff] at hentry
      rw [← hentry]
      exact ⟨entry.1, ObjectSchema.contains_of_field hfield, .column⟩
    · simp at hentry

end RelationalQuery
