import RelationalQuery.Error

/-!
# Row schemas

A row, or a JSON object inside a row, is described by an object schema: the fields by name, in the
order of their names.

Main definitions:

- `FieldKind`, `Field` and `ObjectSchema` describe values, fields and objects.
- `ObjectSchema.get?` and `ObjectSchema.field` look up a field; `ObjectSchema.insert` adds one.
- `ObjectSchema.withOptional` makes the given fields optional.
- `Field.isPlainObject` and the other predicates classify fields.
-/

namespace RelationalQuery

mutual

/-- What values a field takes. -/
inductive FieldKind where
  | object (schema : ObjectSchema)
  | array (element : Field)
  | union (alternatives : List Field)
  | boolean
  | number (format : Option NumberFormat)
  | string (format : Option StringFormat)

/-- A field: its kind, whether it may be absent or null, the value that stands for an absent one,
and whether an object may hold keys outside of its schema. -/
structure Field where
  kind : FieldKind
  optional : Bool
  nullable : Bool
  defaultValue : Option Json
  extensible : Bool

/-- The fields of an object by name, in the order of their names. -/
structure ObjectSchema where
  fields : List (String × Field)

end

/-! ## Object schemas -/

namespace ObjectSchema

/-- The schema without fields. -/
def empty : ObjectSchema := ⟨[]⟩

/-- Add a field to a list in the order of names; a field of the same name is replaced. -/
def insertField : List (String × Field) → String → Field → List (String × Field)
  | [], name, field => [(name, field)]
  | (other, old) :: rest, name, field =>
    if name < other then (name, field) :: (other, old) :: rest
    else if name = other then (name, field) :: rest
    else (other, old) :: insertField rest name field

/-- Add a field; a field of the same name is replaced. -/
def insert (schema : ObjectSchema) (name : String) (field : Field) : ObjectSchema :=
  ⟨insertField schema.fields name field⟩

/-- The schema with the given fields, of which the last of each name counts. -/
def ofFields (fields : List (String × Field)) : ObjectSchema :=
  fields.foldl (fun schema entry => schema.insert entry.1 entry.2) empty

/-- The field with a given name. -/
def get? (schema : ObjectSchema) (name : String) : Option Field := schema.fields.lookup name

/-- A field has the given name. -/
def contains (schema : ObjectSchema) (name : String) : Bool := (schema.get? name).isSome

/-- The field with a given name; without one the key is unexpected below the given path. -/
def field (schema : ObjectSchema) (name parentPath : String) : Except QueryError Field :=
  match schema.get? name with
  | some field => .ok field
  | none => .error (.unexpectedField (joinPath parentPath name))

/-- The names of the fields. -/
def fieldNames (schema : ObjectSchema) : List String := schema.fields.map (·.1)

/-- Some field is optional. -/
def hasOptionalFields (schema : ObjectSchema) : Bool := schema.fields.any (·.2.optional)

/-- The schema with the fields of the given names made optional. -/
def withOptional (schema : ObjectSchema) (names : List String) : ObjectSchema :=
  ⟨schema.fields.map fun entry =>
    (entry.1, if names.contains entry.1 then { entry.2 with optional := true } else entry.2)⟩

end ObjectSchema

/-! ## Fields -/

/-- The type of the values of a kind. -/
def FieldKind.type : FieldKind → FieldType
  | .object _ => .object
  | .array _ => .array
  | .union _ => .union
  | .boolean => .boolean
  | .number _ => .number
  | .string _ => .string

namespace Field

/-- A required field of the given kind that is not nullable and has no default. -/
def ofKind (kind : FieldKind) : Field := ⟨kind, false, false, none, false⟩

/-- The type of the values of a field. -/
def type (field : Field) : FieldType := field.kind.type

/-- The schema of an object field. -/
def objectSchema? (field : Field) : Option ObjectSchema :=
  match field.kind with
  | .object schema => some schema
  | _ => none

/-- The field holds objects. -/
def isObject (field : Field) : Bool := field.objectSchema?.isSome

/-- The field holds objects whose keys are not fixed by the schema. -/
def isDynamicObject (field : Field) : Bool := field.isObject && field.extensible

/-- The field holds objects with a fixed set of keys that can be updated key by key. -/
def isPlainObject (field : Field) : Bool :=
  field.isObject && !field.extensible && !field.nullable

/-- The field holds numbers. -/
def isNumber (field : Field) : Bool :=
  match field.kind with
  | .number _ => true
  | _ => false

/-- The field holds integers. -/
def isInteger (field : Field) : Bool :=
  match field.kind with
  | .number (some .integer) => true
  | _ => false

/-- The field holds strings. -/
def isString (field : Field) : Bool :=
  match field.kind with
  | .string _ => true
  | _ => false

/-- The field is stored as JSON. -/
def isJson (field : Field) : Bool :=
  match field.kind with
  | .object _ => true
  | .array _ => true
  | _ => false

/-- The format of a string field. -/
def stringFormat? (field : Field) : Option StringFormat :=
  match field.kind with
  | .string format => format
  | _ => none

/-- A record that holds every row has to name the field. -/
def isRequired (field : Field) : Bool := !field.optional && field.defaultValue.isNone

end Field

end RelationalQuery
