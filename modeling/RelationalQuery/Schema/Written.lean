import RelationalQuery.Schema.Basic
import RelationalQuery.Json.Record

/-!
# Schemas as JSON

A schema is written as an object with its `properties`.  A field is written as one object that holds
its `type`, the parts of that type, the flags `optional` and `nullable`, and its `definitions`.
Absent flags are false, an absent or null default is no default, and keys of other kinds are
ignored.

Main definitions:

- `ObjectSchema.toJson` and `Field.toJson` write schemas and fields.
- `ObjectSchema.ofJson?` and `Field.ofJson?` read them.
-/

namespace RelationalQuery

/-! ## Writing -/

/-- The members of the definitions of a field. -/
def Field.definitionMembers (field : Field) : Members :=
  (match field.defaultValue with
    | none => []
    | some value => [("default", value)]) ++ [("extensible", .bool field.extensible)]

mutual

/-- The members that write a kind. -/
def FieldKind.members : FieldKind → Members
  | .object schema => [("type", .string "object"), ("properties", .object schema.propertyMembers)]
  | .array element => [("type", .string "array"), ("element", element.toJson)]
  | .union alternatives =>
    [("type", .string "union"), ("elements", .array (Field.listToJson alternatives))]
  | .boolean => [("type", .string "boolean")]
  | .number none => [("type", .string "number")]
  | .number (some format) => [("type", .string "number"), ("format", .string format.name)]
  | .string none => [("type", .string "string")]
  | .string (some format) => [("type", .string "string"), ("format", .string format.name)]

/-- A field as JSON. -/
def Field.toJson : Field → Json
  | ⟨kind, optional, nullable, defaultValue, extensible⟩ =>
    .object (kind.members ++
      [("optional", .bool optional), ("nullable", .bool nullable),
        ("definitions",
          .object (Field.definitionMembers ⟨kind, optional, nullable, defaultValue, extensible⟩))])

/-- Fields as JSON. -/
def Field.listToJson : List Field → List Json
  | [] => []
  | field :: rest => field.toJson :: Field.listToJson rest

/-- Named fields as members. -/
def Field.namedToMembers : List (String × Field) → List (String × Json)
  | [] => []
  | (name, field) :: rest => (name, field.toJson) :: Field.namedToMembers rest

/-- The members that write the fields of a schema. -/
def ObjectSchema.propertyMembers : ObjectSchema → Members
  | ⟨fields⟩ => Field.namedToMembers fields

end

/-- A schema as JSON. -/
def ObjectSchema.toJson (schema : ObjectSchema) : Json :=
  .object [("properties", .object schema.propertyMembers)]

/-! ## Reading -/

/-- The kinds in the order of their numbers. -/
def FieldType.all : List FieldType := [.object, .array, .union, .boolean, .number, .string]

/-- The type that a value names, by its word or by its number. -/
def FieldType.ofJson? : Json → Option FieldType
  | .string name => FieldType.all.find? (·.name == name)
  | value => value.unsigned?.bind fun number => FieldType.all[number.toNat]?

/-- What has been read of a field.  The parts of a type are read when they are present, and count
only when the type needs them. -/
structure FieldDraft where
  type : Option Json
  format : Option Json
  optional : Option Json
  nullable : Option Json
  definitions : Option Json
  properties : Option (Option (List (String × Field)))
  element : Option (Option Field)
  elements : Option (Option (List Field))

namespace FieldDraft

/-- Nothing has been read. -/
def empty : FieldDraft := ⟨none, none, none, none, none, none, none, none⟩

/-- The kind of a draft. -/
def kind? (draft : FieldDraft) : Option FieldKind := do
  match ← draft.type.bind FieldType.ofJson? with
  | .object => return .object (ObjectSchema.ofFields (← draft.properties.getD (some [])))
  | .array => return .array (← draft.element.join)
  | .union => return .union (← draft.elements.join)
  | .boolean => return .boolean
  | .number =>
    return .number ((← Json.optional? (Json.name? Json.isNullOrEmpty) draft.format).map
      NumberFormat.ofName)
  | .string =>
    return .string ((← Json.optional? (Json.name? Json.isNullOrEmpty) draft.format).map
      StringFormat.ofName)

/-- The default and the extensibility of a draft. -/
def definitions? (draft : FieldDraft) : Option (Option Json × Bool) :=
  match draft.definitions with
  | none => some (none, false)
  | some value => do
    match ← value.record? .openToOthers ["default", "extensible"] with
    | [defaultValue, extensible] => return (Json.present? defaultValue, ← Json.flag? extensible)
    | _ => none

/-- The field of a draft. -/
def field? (draft : FieldDraft) : Option Field := do
  let kind ← draft.kind?
  let optional ← Json.flag? draft.optional
  let nullable ← Json.flag? draft.nullable
  let (defaultValue, extensible) ← draft.definitions?
  return ⟨kind, optional, nullable, defaultValue, extensible⟩

end FieldDraft

mutual

/-- Read a field. -/
def Field.ofJson? : Json → Option Field
  | .object members => (Field.draft members).field?
  | _ => none

/-- Read the members of a field. -/
def Field.draft : List (String × Json) → FieldDraft
  | [] => .empty
  | (key, value) :: rest =>
    let draft := Field.draft rest
    if key = "type" then { draft with type := some value }
    else if key = "format" then { draft with format := some value }
    else if key = "optional" then { draft with optional := some value }
    else if key = "nullable" then { draft with nullable := some value }
    else if key = "definitions" then { draft with definitions := some value }
    else if key = "properties" then { draft with properties := some (Field.namedOfJson? value) }
    else if key = "element" then { draft with element := some (Field.ofJson? value) }
    else if key = "elements" then { draft with elements := some (Field.listOfJson? value) }
    else draft

/-- Read an array of fields. -/
def Field.listOfJson? : Json → Option (List Field)
  | .array items => Field.ofItems? items
  | _ => none

/-- Read fields one by one. -/
def Field.ofItems? : List Json → Option (List Field)
  | [] => some []
  | item :: rest => do
    let field ← Field.ofJson? item
    return field :: (← Field.ofItems? rest)

/-- Read an object of named fields. -/
def Field.namedOfJson? : Json → Option (List (String × Field))
  | .object members => Field.ofMembers? members
  | _ => none

/-- Read named fields one by one. -/
def Field.ofMembers? : List (String × Json) → Option (List (String × Field))
  | [] => some []
  | (name, value) :: rest => do
    let field ← Field.ofJson? value
    return (name, field) :: (← Field.ofMembers? rest)

end

/-- Read a schema. -/
def ObjectSchema.ofJson? (value : Json) : Option ObjectSchema := do
  match ← value.record? .openToOthers ["properties"] with
  | [none] => return .empty
  | [some properties] => return .ofFields (← Field.namedOfJson? properties)
  | _ => none

end RelationalQuery
