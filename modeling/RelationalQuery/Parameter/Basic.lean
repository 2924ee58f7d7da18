import RelationalQuery.Json.Record
import RelationalQuery.Json.Printer

/-!
# Bound parameters

A value is never written into the text of a statement.  It is bound as a parameter: a JSON value
with an optional hint at the column type it is meant for.

Main definitions:

- `TypeHint` is a hint, `TypeHint.sqlType` the column type it names.
- `Parameter` is a value with its hint; `Parameter.toJson` and `Parameter.ofJson?` are its JSON
  form.
-/

namespace RelationalQuery

/-- The kind of column that a value is meant for. -/
inductive TypeHint where
  | uuid
  | date
  | time
  | timestamp
  | json
deriving DecidableEq

namespace TypeHint

/-- The column type that a hint names. -/
def sqlType : TypeHint → String
  | .uuid => "uuid"
  | .date => "date"
  | .time => "time"
  | .timestamp => "timestamptz"
  | .json => "jsonb"

/-- The title of a hint in messages. -/
def title : TypeHint → String
  | .uuid => "Uuid"
  | .date => "Date"
  | .time => "Time"
  | .timestamp => "Timestamp"
  | .json => "Json"

/-- The word of a hint in JSON. -/
def name : TypeHint → String
  | .uuid => "UUID"
  | .date => "DATE"
  | .time => "TIME"
  | .timestamp => "TIMESTAMP"
  | .json => "JSON"

/-- The hint with a given word. -/
def ofName? (name : String) : Option TypeHint :=
  [uuid, date, time, timestamp, json].find? (·.name == name)

/-- Read a hint. -/
def ofJson? (value : Json) : Option TypeHint := (value.name? Json.isNull).bind ofName?

/-- The word of a hint names it. -/
@[simp] theorem ofName?_name (hint : TypeHint) : ofName? hint.name = some hint := by
  cases hint <;> decide

end TypeHint

/-- A value that is bound to a statement. -/
structure Parameter where
  value : Json
  hint? : Option TypeHint
deriving DecidableEq

namespace Parameter

/-- A parameter without a hint. -/
def plain (value : Json) : Parameter := ⟨value, none⟩

/-- A parameter for a column of JSON. -/
def json (value : Json) : Parameter := ⟨value, some .json⟩

/-- The JSON form of a parameter; a missing hint is left out. -/
def toJson (parameter : Parameter) : Json :=
  .object (("value", parameter.value) ::
    (parameter.hint?.map fun hint => ("hint", Json.string hint.name)).toList)

/-- Read a parameter. -/
def ofJson? (value : Json) : Option Parameter := do
  match ← value.record? .openToOthers ["value", "hint"] with
  | [some value, hint] => return ⟨value, ← Json.optional? TypeHint.ofJson? hint⟩
  | _ => none

end Parameter

end RelationalQuery
