import RelationalQuery.Parameter.Basic
import RelationalQuery.Schema.Basic

/-!
# From values to parameters

A value of a known field takes its hint from the schema; any other value takes it from its own form.
Null is never encoded, because statements write it as a literal.

Main definitions:

- `Parameter.ofValue` encodes a value, with its field if that is known.
- `Parameter.detect` encodes a value by its form alone.
-/

namespace RelationalQuery

/-- The hint for strings of a format. -/
def StringFormat.hint? : StringFormat → Option TypeHint
  | .uuid => some .uuid
  | .date => some .date
  | .dateTime => some .timestamp
  | .time => some .time
  | _ => none

/-- The hint that the form of a text suggests: a hyphenated identifier, a timestamp with the letter
`T`, a date, or a time with seconds, in this order. -/
def TypeHint.detect? (text : String) : Option TypeHint :=
  if text.utf8ByteSize = 36 ∧ (Uuid.ofText? text).isSome then some .uuid
  else if text.toList.contains 'T' ∧ (Timestamp.ofText? text).isSome then some .timestamp
  else if (Date.ofText? text).isSome then some .date
  else if (TimeOfDay.ofFullText? text).isSome then some .time
  else none

namespace Parameter

/-- The parameter for a value of an unknown field. -/
def detect (value : Json) : Except QueryError Parameter :=
  match value with
  | .null => .error (.unsupportedValue .untypedNull)
  | .bool _ => .ok (plain value)
  | .number _ => .ok (plain value)
  | .string text => .ok ⟨value, TypeHint.detect? text⟩
  | .array _ => .ok (json value)
  | .object _ => .ok (json value)

/-- The parameter for a value that is not null of a kind. -/
def ofKind (kind : FieldKind) (value : Json) : Except QueryError Parameter :=
  match kind with
  | .string format => .ok ⟨value, format.bind StringFormat.hint?⟩
  | .boolean => .ok (plain value)
  | .number _ => .ok (plain value)
  | .object _ => .ok (json value)
  | .array _ => .ok (json value)
  | .union _ => detect value

/-- The parameter for a value of a field, if the field is known. -/
def ofValue (value : Json) (field? : Option Field) : Except QueryError Parameter :=
  match field? with
  | none => detect value
  | some field =>
    if value.isNull then .error (.unsupportedValue .boundNull) else ofKind field.kind value

end Parameter

end RelationalQuery
