import RelationalQuery.Sql.Record
import RelationalQuery.Schema.Basic

/-!
# Patches of JSON objects

A patch gives values to some keys of one column of JSON.  It is written as one assignment per key,
or as one merge with the stored object.  The merge is taken when the schema has optional keys and
the patch does not touch them all, since then the stored object may lack a key.

Main definitions:

- `Patch` is a patch; `Patch.set` adds a key.
- `Patch.mode` chooses the form, and `Patch.assignments` are the assignments of that form.
-/

namespace RelationalQuery.Sql

/-- The form in which a patch is written. -/
inductive PatchMode where
  | subscript
  | merge
deriving DecidableEq

/-- Values for some keys of a column; the qualifier is for reading the stored object. -/
structure Patch where
  column : String
  qualifier? : Option String
  entries : List (String × Expr)

namespace Patch

/-- JSON null as trusted text. -/
def jsonNull : Expr := .raw "'null'::jsonb"

/-- The value that is stored for an expression: the literal null stands for JSON null. -/
def stored : Expr → Expr
  | .null => jsonNull
  | value => value

/-- Give a value to a key. -/
def set (patch : Patch) (key : String) (value : Expr) : Patch :=
  { patch with entries := patch.entries ++ [(key, stored value)] }

/-- The patch without keys. -/
def empty (column : String) (qualifier? : Option String) : Patch := ⟨column, qualifier?, []⟩

/-- The form of a patch of an object with the given schema. -/
def mode (patch : Patch) (schema : ObjectSchema) : PatchMode :=
  if patch.entries.length < schema.fields.length ∧ schema.hasOptionalFields then .merge
  else .subscript

/-- The value of a key inside a merge, where a parameter has to be cast. -/
def merged : Expr → Expr
  | .parameter value => .cast (.parameter value) "jsonb"
  | value => value

/-- One assignment per key. -/
def subscriptAssignments (patch : Patch) : List Assignment :=
  patch.entries.map fun entry => ⟨(ColumnRef.plain patch.column).key entry.1, entry.2⟩

/-- One assignment of the stored object with the keys replaced. -/
def mergeAssignment (patch : Patch) : Assignment :=
  .column patch.column (.merge ⟨patch.qualifier?, patch.column, []⟩
    (patch.entries.map fun entry => (entry.1, merged entry.2)))

/-- The assignments of a patch. -/
def assignments (patch : Patch) (schema : ObjectSchema) : List Assignment :=
  match patch.mode schema with
  | .subscript => patch.subscriptAssignments
  | .merge => [patch.mergeAssignment]

end Patch

end RelationalQuery.Sql
