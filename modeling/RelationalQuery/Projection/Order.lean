import RelationalQuery.Relation.Repository
import RelationalQuery.Sql.Tree

/-!
# Orders

An order is an object that gives a direction to columns, or an array of such objects.

Main definitions:

- `orderTerms` are the keys of an order over a table.
-/

namespace RelationalQuery

open Sql (Direction OrderTerm)

/-- The direction that a text names in any letter case. -/
def Sql.Direction.ofText? (text : String) : Option Direction :=
  if text.toLower = "asc" then some .ascending
  else if text.toLower = "desc" then some .descending
  else none

/-- The objects of an order. -/
def orderObjects (value : Json) (path : String) : Except QueryError (List Members) :=
  match value with
  | .object members => .ok [members]
  | .array items =>
    items.mapM fun item =>
      match item.members? with
      | some members => .ok members
      | none => .error (.malformed path .orderEntryNotObject)
  | _ => .error (.malformed path .orderNotObject)

/-- The key of an order for a column of a table with its direction. -/
def orderTerm (table : Table) (scope? : Option String) (path : String) (entry : String × Json) :
    Except QueryError OrderTerm := do
  let _ ← table.schema.field entry.1 path
  match entry.2.string?.bind Direction.ofText? with
  | some direction => return ⟨.column ⟨scope?, entry.1, []⟩, direction⟩
  | none => throw (.malformed (joinPath path entry.1) .unknownDirection)

/-- The keys of an order over a table.  Columns are qualified by the scope, if there is one. -/
def orderTerms (value : Json) (table : Table) (scope? : Option String) (path : String) :
    Except QueryError (List OrderTerm) := do
  (← orderObjects value path).flatten.mapM (orderTerm table scope? path)

/-- The keys of an order that may be absent. -/
def orderTerms? (value? : Option Json) (table : Table) (scope? : Option String) (path : String) :
    Except QueryError (List OrderTerm) :=
  match value? with
  | none => .ok []
  | some value => orderTerms value table scope? path

end RelationalQuery
