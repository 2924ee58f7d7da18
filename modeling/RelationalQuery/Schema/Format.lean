import RelationalQuery.Json.Basic
import RelationalQuery.Text.Email
import RelationalQuery.Text.Uuid
import RelationalQuery.Calendar.Timestamp
import RelationalQuery.Url.Basic

/-!
# Kinds and formats of fields

Main definitions:

- `FieldType` names the kinds of values a field takes.
- `NumberFormat` and `StringFormat` refine numbers and strings; `StringFormat.accepts` decides
  whether a text has a format.
-/

namespace RelationalQuery

/-- The kinds of values a field takes. -/
inductive FieldType where
  | object
  | array
  | union
  | boolean
  | number
  | string
deriving DecidableEq

/-- The word for a kind. -/
def FieldType.name : FieldType → String
  | .object => "object"
  | .array => "array"
  | .union => "union"
  | .boolean => "boolean"
  | .number => "number"
  | .string => "string"

/-- Refinements of numbers.  Any unknown refinement is `other`. -/
inductive NumberFormat where
  | integer
  | decimal
  | other
deriving DecidableEq

/-- The word for a refinement of numbers. -/
def NumberFormat.name : NumberFormat → String
  | .integer => "integer"
  | .decimal => "decimal"
  | .other => "other"

/-- The refinement of numbers with a given word. -/
def NumberFormat.ofName (name : String) : NumberFormat :=
  if name = "integer" then .integer
  else if name = "decimal" then .decimal
  else .other

/-- Refinements of strings.  Any unknown refinement is `other`. -/
inductive StringFormat where
  | uuid
  | date
  | dateTime
  | time
  | email
  | url
  | other
deriving DecidableEq

namespace StringFormat

/-- The word for a refinement of strings. -/
def name : StringFormat → String
  | .uuid => "uuid"
  | .date => "date"
  | .dateTime => "date-time"
  | .time => "time"
  | .email => "email"
  | .url => "url"
  | .other => "other"

/-- The refinement of strings with a given word. -/
def ofName (name : String) : StringFormat :=
  if name = "uuid" then .uuid
  else if name = "date" then .date
  else if name = "date-time" then .dateTime
  else if name = "time" then .time
  else if name = "email" then .email
  else if name = "url" then .url
  else .other

/-- The title of a refinement of strings, as it stands in messages. -/
def title : StringFormat → String
  | .uuid => "Uuid"
  | .date => "Date"
  | .dateTime => "DateTime"
  | .time => "Time"
  | .email => "Email"
  | .url => "Url"
  | .other => "Other"

/-- The text has the format. -/
def accepts (format : StringFormat) (text : String) : Bool :=
  match format with
  | .uuid => (Uuid.ofText? text).isSome
  | .date => (Date.ofText? text).isSome
  | .dateTime => (Timestamp.ofText? text).isSome
  | .time => (TimeOfDay.ofText? text).isSome
  | .email => Text.isEmail text
  | .url => Url.isUrl text
  | .other => true

end StringFormat

/-- The word of a refinement names it. -/
@[simp] theorem NumberFormat.ofName_name (format : NumberFormat) :
    NumberFormat.ofName format.name = format := by
  cases format <;> decide

/-- The word of a refinement names it. -/
@[simp] theorem StringFormat.ofName_name (format : StringFormat) :
    StringFormat.ofName format.name = format := by
  cases format <;> decide

end RelationalQuery
