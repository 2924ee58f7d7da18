import RelationalQuery.Parameter.Basic
import RelationalQuery.Parameter.Numeric
import RelationalQuery.Calendar.Timestamp
import RelationalQuery.Text.Uuid

/-!
# Binary form of parameters

A parameter is sent in the binary format of the column type that it is bound to.  A hint tells how a
string is read; without a hint the value and the column type tell.

Main definitions:

- `ColumnType` is a column type; `BindError` says why a parameter cannot be bound to one.
- `Parameter.binary` is the binary form, or nothing for null.
-/

namespace RelationalQuery

/-! ## Column types -/

/-- A type of columns. -/
inductive ColumnType where
  | bool
  | int2
  | int4
  | int8
  | float4
  | float8
  | numeric
  | text
  | varchar
  | json
  | jsonb
  | uuid
  | date
  | time
  | timestamp
  | timestamptz
  | oid
  | bytea
deriving DecidableEq

namespace ColumnType

/-- The name of a column type. -/
def name : ColumnType → String
  | .bool => "bool"
  | .int2 => "int2"
  | .int4 => "int4"
  | .int8 => "int8"
  | .float4 => "float4"
  | .float8 => "float8"
  | .numeric => "numeric"
  | .text => "text"
  | .varchar => "varchar"
  | .json => "json"
  | .jsonb => "jsonb"
  | .uuid => "uuid"
  | .date => "date"
  | .time => "time"
  | .timestamp => "timestamp"
  | .timestamptz => "timestamptz"
  | .oid => "oid"
  | .bytea => "bytea"

/-- All column types. -/
def all : List ColumnType :=
  [bool, int2, int4, int8, float4, float8, numeric, text, varchar, json, jsonb, uuid, date, time,
    timestamp, timestamptz, oid, bytea]

/-- The column type with a given name. -/
def ofName? (name : String) : Option ColumnType := all.find? (·.name == name)

/-- The name of a column type names it. -/
@[simp] theorem ofName?_name (type : ColumnType) : ofName? type.name = some type := by
  cases type <;> decide

end ColumnType

/-! ## Errors -/

/-- Why a parameter cannot be bound to a column type. -/
inductive BindError where
  /-- The kind of value does not fit the type. -/
  | wrongType
  /-- The string is no identifier. -/
  | notUuid
  /-- The string is no date, time or timestamp. -/
  | notCalendar
  /-- The integer does not fit the type. -/
  | outOfRange
  /-- The date, time or timestamp does not fit the type. -/
  | tooLarge
  /-- The number is no decimal of the supported size. -/
  | notDecimal
  /-- The number is no signed integer. -/
  | notInteger
  /-- Numbers cannot be bound to the type. -/
  | numberColumn (type : ColumnType)
  /-- A hinted value has to be a string. -/
  | notString (hint : TypeHint) (found : Json)
deriving DecidableEq

/-- The wording of errors that have one. -/
def BindError.message? : BindError → Option String
  | .notInteger => some "expected an integer"
  | .tooLarge => some "value too large to transmit"
  | .numberColumn type => some ("cannot bind number to column type " ++ type.name)
  | .notString hint found =>
    some (hint.title ++ " parameter must be a string, got " ++ found.text)
  | _ => none

/-! ## Encoding -/

namespace Json

/-- The binary form of a value in a column of JSON. -/
def binary (value : Json) (type : ColumnType) : Except BindError (List UInt8) :=
  let text := value.text.toUTF8.toList
  match type with
  | .json => .ok text
  | .jsonb => .ok (1 :: text)
  | _ => .error .wrongType

end Json

/-- An integer in so many bytes, or the error for one that does not fit. -/
def signedOr (failure : BindError) (count : Nat) (value : Int) : Except BindError (List UInt8) :=
  let bound : Int := Nat.pow 2 (8 * count - 1)
  if -bound ≤ value ∧ value < bound then .ok (signedBigEndian count value) else .error failure

/-- The integer of a number in so many bytes, if it fits. -/
def Number.binaryInteger (count : Nat) (number : Number) : Except BindError (List UInt8) :=
  match number.signed? with
  | none => .error .notInteger
  | some value => signedOr .outOfRange count value

/-- The binary form of a number. -/
def Number.binary (number : Number) (type : ColumnType) : Except BindError (List UInt8) :=
  match type with
  | .int2 => number.binaryInteger 2
  | .int4 => number.binaryInteger 4
  | .int8 => number.binaryInteger 8
  | .float4 => .ok (bigEndian 4 number.toBinary64.singleBits)
  | .float8 => .ok (bigEndian 8 number.toBinary64.toBits)
  | .numeric =>
    match Numeric.ofNumber? number with
    | some decimal => .ok decimal.binary
    | none => .error .notDecimal
  | .json => (Json.number number).binary type
  | .jsonb => (Json.number number).binary type
  | _ => .error (.numberColumn type)

/-- The binary form of a value that has one form only, at the only type that takes it. -/
def onlyAt (own type : ColumnType) (bytes : Except BindError (List UInt8)) :
    Except BindError (List UInt8) :=
  if type = own then bytes else .error .wrongType

/-- The value of a string that has been read, or the error for one that cannot be read. -/
def readOr (failure : BindError) : Option α → Except BindError α
  | some value => .ok value
  | none => .error failure

/-- The binary form of an identifier in a string. -/
def Uuid.binaryOfText (text : String) (type : ColumnType) : Except BindError (List UInt8) := do
  let uuid ← readOr .notUuid (Uuid.ofText? text)
  onlyAt .uuid type (.ok uuid.bytes)

/-- The binary form of a date in a string: the days since the beginning of the year 2000. -/
def Date.binaryOfText (text : String) (type : ColumnType) : Except BindError (List UInt8) := do
  let date ← readOr .notCalendar (Date.ofText? text)
  onlyAt .date type (signedOr .tooLarge 4 date.dayNumber)

/-- The binary form of a time in a string: the microseconds since midnight. -/
def TimeOfDay.binaryOfText (text : String) (type : ColumnType) : Except BindError (List UInt8) := do
  let time ← readOr .notCalendar (TimeOfDay.ofText? text)
  onlyAt .time type (signedOr .tooLarge 8 time.microseconds)

/-- The binary form of a timestamp in a string: the microseconds since the beginning of the year
2000. -/
def Timestamp.binaryOfText (text : String) (type : ColumnType) : Except BindError (List UInt8) := do
  let timestamp ← readOr .notCalendar (Timestamp.ofText? text)
  let bytes := signedOr .tooLarge 8 timestamp.microseconds
  if type = .timestamp then bytes else onlyAt .timestamptz type bytes

/-- The binary form of a string without a hint. -/
def Text.binary (text : String) (type : ColumnType) : Except BindError (List UInt8) :=
  match type with
  | .uuid => Uuid.binaryOfText text type
  | .json => (Json.string text).binary type
  | .jsonb => (Json.string text).binary type
  | .text => .ok text.toUTF8.toList
  | .varchar => .ok text.toUTF8.toList
  | _ => .error .wrongType

/-- The binary form of a string with a hint. -/
def TypeHint.binary (hint : TypeHint) (text : String) (type : ColumnType) :
    Except BindError (List UInt8) :=
  match hint with
  | .uuid => Uuid.binaryOfText text type
  | .date => Date.binaryOfText text type
  | .time => TimeOfDay.binaryOfText text type
  | .timestamp => Timestamp.binaryOfText text type
  | .json => (Json.string text).binary type

/-- The binary form of a value without a hint; null has none. -/
def Json.plainBinary (value : Json) (type : ColumnType) :
    Except BindError (Option (List UInt8)) :=
  match value with
  | .null => .ok none
  | .bool flag => some <$> onlyAt .bool type (.ok [if flag then 1 else 0])
  | .number n => some <$> n.binary type
  | .string text => some <$> Text.binary text type
  | .array _ => some <$> value.binary type
  | .object _ => some <$> value.binary type

/-- The binary form of a parameter at a column type; null has none. -/
def Parameter.binary (parameter : Parameter) (type : ColumnType) :
    Except BindError (Option (List UInt8)) :=
  match parameter.hint?, parameter.value with
  | _, .null => .ok none
  | none, value => value.plainBinary type
  | some .json, value => some <$> value.binary type
  | some hint, .string text => some <$> hint.binary text type
  | some hint, value => .error (.notString hint value)

end RelationalQuery
