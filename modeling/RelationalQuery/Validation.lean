import RelationalQuery.Schema.Basic

/-!
# Validation of records

Every record that is about to be written is handed to a validator.  The validator of the schema
checks types, formats and required fields.

Main definitions:

- `ValidationMode` says how much of a record has to be present; `Validator` is any check of records.
- `Field.validate` and `ObjectSchema.validate` are the checks of the schema, by recursion on it.
- `Validator.ofSchema` is the validator that makes them.
-/

namespace RelationalQuery

/-- How much of a record has to be present. -/
inductive ValidationMode where
  /-- Required fields have to be present. -/
  | full
  /-- Any part of the fields may be present, and a number may be given as an operation. -/
  | partialRecord
deriving DecidableEq

/-- A check of a record against a schema at a dotted path. -/
abbrev Validator :=
  Members → ObjectSchema → String → ValidationMode → Except QueryError Unit

/-- The fault of a value at a path, unless the condition holds. -/
def ensure (condition : Bool) (path : String) (fault : ValueFault) : Except QueryError Unit :=
  if condition then .ok () else .error (.invalidValue path fault)

/-- The required fields are present. -/
def ObjectSchema.checkRequired (fields : List (String × Field)) (record : Members)
    (path : String) : Except QueryError Unit :=
  fields.forM fun entry =>
    ensure (!entry.2.isRequired || record.contains entry.1) (joinPath path entry.1) .missingField

/-- A number is of the required format. -/
def checkNumber (format : Option NumberFormat) (number : Number) (path : String) :
    Except QueryError Unit :=
  ensure (format != some .integer || number.isIntegral) path .notInteger

/-- A text is of the required format. -/
def checkText (format : Option StringFormat) (text path : String) : Except QueryError Unit :=
  match format with
  | none => .ok ()
  | some format => ensure (format.accepts text) path (.badFormat format text)

mutual

/-- Check a value against a field.  Null is only a matter of the field; every other value has to fit
the kind. -/
def Field.validate : Field → Json → String → ValidationMode → Except QueryError Unit
  | ⟨_, _, nullable, _, _⟩, .null, path, _ => ensure nullable path .nullNotAllowed
  | ⟨kind, _, _, _, extensible⟩, value, path, mode => kind.validate extensible value path mode

/-- Check a value that is not null against a kind; `extensible` admits keys outside of an object
schema.  Items of an array are whole records. -/
def FieldKind.validate : FieldKind → Bool → Json → String → ValidationMode →
    Except QueryError Unit
  | .boolean, _, value, path, _ => ensure value.bool?.isSome path (.wrongType .boolean value)
  | .number format, _, value, path, mode =>
    match value with
    | .number number => checkNumber format number path
    | value =>
      ensure (value.isObject && mode == .partialRecord) path (.wrongType .number value)
  | .string format, _, value, path, _ =>
    match value with
    | .string text => checkText format text path
    | value => .error (.invalidValue path (.wrongType .string value))
  | .object schema, extensible, value, path, mode =>
    match value with
    | .object record => schema.validate extensible record path mode
    | value => .error (.invalidValue path (.wrongType .object value))
  | .array element, _, value, path, _ =>
    match value with
    | .array items =>
      items.zipIdx.forM fun entry => element.validate entry.1 (itemPath path entry.2) .full
    | value => .error (.invalidValue path (.wrongType .array value))
  | .union alternatives, _, value, path, mode =>
    ensure (Field.anyAccepts alternatives value path mode) path .noAlternative

/-- Some alternative accepts a value. -/
def Field.anyAccepts : List Field → Json → String → ValidationMode → Bool
  | [], _, _, _ => false
  | field :: rest, value, path, mode =>
    (field.validate value path mode).isOk || Field.anyAccepts rest value path mode

/-- Check a record against a schema: its members in their order, and then the required fields in the
order of their names. -/
def ObjectSchema.validate : ObjectSchema → Bool → Members → String → ValidationMode →
    Except QueryError Unit
  | ⟨fields⟩, extensible, record, path, mode => do
    record.forM fun entry =>
      Field.validateNamed fields extensible entry.1 entry.2 (joinPath path entry.1) mode
    if mode = .full then ObjectSchema.checkRequired fields record path

/-- Check a value against the field of a given name; without one the key has to be admitted. -/
def Field.validateNamed : List (String × Field) → Bool → String → Json → String →
    ValidationMode → Except QueryError Unit
  | [], extensible, _, _, path, _ => if extensible then .ok () else .error (.unexpectedField path)
  | (other, field) :: rest, extensible, name, value, path, mode =>
    if name = other then field.validate value path mode
    else Field.validateNamed rest extensible name value path mode

end

/-- The validator that checks records against their schemas. -/
def Validator.ofSchema : Validator := fun record schema path mode =>
  schema.validate false record path mode

end RelationalQuery
