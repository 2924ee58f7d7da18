import RelationalQuery.Json.Basic

/-!
# Records and names inside JSON

A record with a fixed list of fields is written as an object, or as an array of its fields in their
order; later fields may be left out of the array.  A name out of a fixed set is written as a string,
or as an object with the name as its only key.

Main definitions:

- `Json.record?` gives the values of the fields, absent ones as `none`.
- `Json.name?` is a written name.
- `Json.strings?` reads an array of strings.
- `Json.optional?`, `Json.flag?`, `Json.stringOr?` and `Json.listOr?` read fields that may be
  absent.
-/

namespace RelationalQuery.Json

/-- Whether a record may hold keys outside of its fields. -/
inductive Openness where
  | openToOthers
  | closed
deriving DecidableEq

/-- The values of the fields of a record, absent ones as `none`. -/
def record? (openness : Openness) (names : List String) : Json → Option (List (Option Json))
  | .object members =>
    if openness = .closed ∧ members.any (fun entry => !names.contains entry.1) then none
    else some (names.map fun name => Members.get? members name)
  | .array items =>
    if items.length ≤ names.length then
      some (items.map some ++ List.replicate (names.length - items.length) none)
    else none
  | _ => none

/-- The name that a value writes; as an object, the key has an empty payload. -/
def name? (isEmptyPayload : Json → Bool) : Json → Option String
  | .string name => some name
  | .object [(name, payload)] => if isEmptyPayload payload then some name else none
  | _ => none

/-- The value is null or an object without members. -/
def isNullOrEmpty : Json → Bool
  | .null => true
  | .object [] => true
  | _ => false

/-- The strings of an array of strings. -/
def strings? (value : Json) : Option (List String) := value.items?.bind (·.mapM string?)

/-! ## Fields that may be absent -/

/-- A field that is absent or null has no value. -/
def present? : Option Json → Option Json
  | some .null => none
  | field => field

/-- An optional part: absent or null without a value, and otherwise read. -/
def optional? (read : Json → Option α) (field : Option Json) : Option (Option α) :=
  match present? field with
  | none => some none
  | some value => (read value).map some

/-- A flag that is false when it is absent. -/
def flag? : Option Json → Option Bool
  | none => some false
  | some value => value.bool?

/-- A string with a value for its absence. -/
def stringOr? (absent : String) : Option Json → Option String
  | none => some absent
  | some value => value.string?

/-- A list that is empty when it is absent. -/
def listOr? (read : Json → Option α) : Option Json → Option (List α)
  | none => some []
  | some value => value.items?.bind (·.mapM read)

end RelationalQuery.Json
