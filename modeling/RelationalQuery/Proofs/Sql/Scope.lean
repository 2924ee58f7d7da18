import Mathlib.Data.List.Basic

/-!
# Scopes

A statement reads columns of the items in its FROM clause, and a subquery also those of the
statements around it.  The items of one statement form a frame, and the frames of a statement and of
those around it form a scope, innermost first.

A qualified column belongs to the item of that name in the innermost frame that has such an item; a
plain column belongs to the item that provides it in the innermost frame that has such an item.  In
that frame there must be only one.

Main definitions:

- `Item` provides columns under a name; what it provides for a column is a value when statements are
  run, and nothing of interest when they are checked.
- `Scope.resolve` is what the column of an optional qualifier stands for.

Main results:

- `Scope.resolve_push`: a single item hides the items of its name further out, and no others.
- `Scope.resolve_of_mem`: items with distinct names are each read under their own name.
-/

namespace RelationalQuery.Sql

/-- An item of a FROM clause, with what it provides for each of its columns. -/
structure Item (α : Type) where
  name : String
  column? : String → Option α

/-- The items of a statement and of the statements around it, innermost first. -/
abbrev Scope (α : Type) := List (List (Item α))

variable {α : Type}

namespace Scope

/-- The only item of a name in the innermost frame that has one. -/
def item? (name : String) : Scope α → Option (Item α)
  | [] => none
  | frame :: outer =>
    match frame.filter (·.name == name) with
    | [] => item? name outer
    | [item] => some item
    | _ => none

/-- What the only item that provides a column provides for it, in the innermost frame that has
one. -/
def plain? (column : String) : Scope α → Option α
  | [] => none
  | frame :: outer =>
    match frame.filterMap (·.column? column) with
    | [] => plain? column outer
    | [value] => some value
    | _ => none

/-- What a column with an optional qualifier stands for. -/
def resolve (scope : Scope α) (qualifier? : Option String) (column : String) : Option α :=
  match qualifier? with
  | none => scope.plain? column
  | some qualifier => (scope.item? qualifier).bind (·.column? column)

/-- The scope of a subquery that reads a single item. -/
def push (scope : Scope α) (item : Item α) : Scope α := [item] :: scope

/-- A name finds the item that was added last under it. -/
@[simp]
theorem item?_push (scope : Scope α) (item : Item α) (name : String) :
    (scope.push item).item? name = if item.name = name then some item else scope.item? name := by
  rw [push, item?]
  by_cases h : item.name = name
  · simp [h]
  · rw [List.filter_cons_of_neg (by simpa using h), List.filter_nil, if_neg h]

/-- A single item is what its own name stands for; other names stand for what they did. -/
theorem resolve_push (scope : Scope α) (item : Item α) (name column : String) :
    (scope.push item).resolve (some name) column =
      if item.name = name then item.column? column else scope.resolve (some name) column := by
  simp only [resolve, item?_push]
  split <;> rfl

/-- The columns of an item that was added are found under its name. -/
@[simp]
theorem resolve_push_self (scope : Scope α) (item : Item α) (column : String) :
    (scope.push item).resolve (some item.name) column = item.column? column := by
  rw [resolve_push, if_pos rfl]

/-- Under other names nothing changes. -/
theorem resolve_push_of_ne {scope : Scope α} {item : Item α} {name : String}
    (h : item.name ≠ name) (column : String) :
    (scope.push item).resolve (some name) column = scope.resolve (some name) column := by
  rw [resolve_push, if_neg h]

/-- A plain column that the single item provides is read from it. -/
theorem resolve_push_none {scope : Scope α} {item : Item α} {column : String} {value : α}
    (h : item.column? column = some value) :
    (scope.push item).resolve none column = some value := by
  simp [resolve, push, plain?, h]

/-- In a frame whose items have distinct names every item is what its name stands for. -/
theorem item?_of_mem {frame : List (Item α)} (distinct : (frame.map (·.name)).Nodup)
    {item : Item α} (hmem : item ∈ frame) (outer : Scope α) :
    Scope.item? item.name (frame :: outer) = some item := by
  have hfilter : frame.filter (·.name == item.name) = [item] := by
    induction frame with
    | nil => simp at hmem
    | cons first rest ih =>
      rw [List.map_cons, List.nodup_cons] at distinct
      rcases List.mem_cons.1 hmem with rfl | hrest
      · -- No later item has the name of the first one.
        have hnone : rest.filter (·.name == item.name) = [] := by
          rw [List.filter_eq_nil_iff]
          intro other hother heq
          exact distinct.1 (List.mem_map.2 ⟨other, hother, eq_of_beq heq⟩)
        rw [List.filter_cons, if_pos (beq_self_eq_true _), hnone]
      · have hne : ¬ (first.name == item.name) = true := by
          intro heq
          exact distinct.1 (List.mem_map.2 ⟨item, hrest, (eq_of_beq heq).symm⟩)
        rw [List.filter_cons, if_neg hne]
        exact ih distinct.2 hrest
  rw [item?, hfilter]

/-- Among items with names of their own each is found under its name. -/
theorem resolve_of_mem {frame : List (Item α)} (distinct : (frame.map (·.name)).Nodup)
    {item : Item α} (hmem : item ∈ frame) (outer : Scope α) (column : String) :
    Scope.resolve (frame :: outer) (some item.name) column = item.column? column := by
  rw [resolve, item?_of_mem distinct hmem]
  rfl

end Scope

end RelationalQuery.Sql
