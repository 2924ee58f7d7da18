import RelationalQuery.Proofs.Sql.Evaluation

/-!
# Stored values

A column holds a value of JSON or nothing.  Null inside a value of JSON is a value of its own, so it
is not what a column without a value has.  Conditions on a missing value are unknown.

Only objects are looked into by a key.  An array or a text has a key if the key is one of its items
or the text itself, and no value is found under it.

Main definitions:

- `Stored` are the values of columns.
- `Interpretation.stored` gives the predicates on them.

Main results:

- `Stored.hasKey_eq_unknown_iff` and `Stored.hasKey_eq_yes_iff` tell when a value has a key.
-/

namespace RelationalQuery.Sql

/-- The value of a column: nothing, or JSON. -/
abbrev Stored := Option Json

namespace Stored

/-- A value inside JSON, where a missing value is null. -/
def toJson (value : Stored) : Json := value.getD .null

/-- The value under a key. -/
def get? (value : Stored) (key : String) : Stored :=
  value.bind fun json => json.members?.bind fun members => members.get? key

/-- The comparison of two values; it is unknown of a missing one.  JSON null equals itself. -/
def compare (comparison : Comparison) (left right : Stored) : Truth :=
  match left, right with
  | some left, some right =>
    match comparison with
    | .equal => .ofBool (left == right)
    | .notEqual => .ofBool (left != right)
    | other => Interpretation.compareJson other left right
  | _, _ => .unknown

/-- A value has a key: an object as a name, an array as an item, and a text as itself. -/
def hasKey (value : Stored) (key : String) : Truth :=
  match value with
  | none => .unknown
  | some (.object members) => .ofBool (Members.contains members key)
  | some (.array items) => .ofBool (items.contains (.string key))
  | some (.string text) => .ofBool (text == key)
  | some _ => .no

/-- Whether a value has a key is unknown only of a missing value. -/
theorem hasKey_eq_unknown_iff {value : Stored} {key : String} :
    value.hasKey key = .unknown ↔ value = none := by
  unfold hasKey
  split <;> simp

/-- A value that is neither an array nor a text has the keys under which something is found. -/
theorem hasKey_eq_yes_iff {value : Stored} {key : String}
    (looked : ∀ json ∈ value, json.items? = none ∧ json.string? = none) :
    value.hasKey key = .yes ↔ value.get? key ≠ none := by
  cases value with
  | none => simp [hasKey, get?]
  | some json =>
    obtain ⟨hitems, htext⟩ := looked json rfl
    cases json with
    | object members =>
      simp [hasKey, get?, Json.members?, Members.contains, Option.isSome_iff_ne_none]
    | array items => simp [Json.items?] at hitems
    | string text => simp [Json.string?] at htext
    | null | bool _ | number _ => simp [hasKey, get?, Json.members?]

end Stored

namespace Interpretation

/-- Values are stored in columns; what has no value is the missing value. -/
def stored : Interpretation Stored where
  null := none
  parameter bound := if bound.value.isNull then none else some bound.value
  subscript := Stored.get?
  text value := value.bind fun text => if text.isNull then none else some (json.text text)
  object members := some (.object (members.map fun member => (member.1, member.2.toJson)))
  array items := some (.array (items.map Stored.toJson))
  isNull := Option.isNone
  compare := Stored.compare
  isIn tested values := Truth.any (values.map (Stored.compare .equal tested))
  between tested low high :=
    (Stored.compare .greaterOrEqual tested low).and (Stored.compare .lessOrEqual tested high)
  startsWith text lead := textTest List.isPrefixOf text.toJson lead.toJson
  containsText text needle :=
    textTest (fun part text => text.tails.any part.isPrefixOf) text.toJson needle.toJson
  hasKey := Stored.hasKey
  notAfter a b := jsonNotAfter a.toJson b.toJson
  notAfter_total a b := jsonNotAfter_total a.toJson b.toJson
  notAfter_trans a b c := jsonNotAfter_trans a.toJson b.toJson c.toJson

variable {value : Stored} {key : String}

@[simp]
theorem inside_stored_nil : stored.inside [] value = value :=
  rfl

@[simp]
theorem inside_stored_cons (path : List String) :
    stored.inside (key :: path) value = stored.inside path (value.get? key) :=
  rfl

/-- A bound value is stored as it is, and null as none. -/
@[simp]
theorem parameter_stored (bound : Parameter) :
    stored.parameter bound = if bound.value.isNull then none else some bound.value :=
  rfl

/-- Stored values are compared as such. -/
@[simp]
theorem compare_stored (comparison : Comparison) (left right : Stored) :
    stored.compare comparison left right = left.compare comparison right :=
  rfl

@[simp]
theorem isNull_stored : stored.isNull value = value.isNone :=
  rfl

/-- A key is looked for in the stored value. -/
@[simp]
theorem hasKey_stored : stored.hasKey value key = value.hasKey key :=
  rfl

/-- The last key of a path is looked up in what the others lead to. -/
theorem inside_stored_concat (path : List String) :
    stored.inside (path ++ [key]) value = (stored.inside path value).get? key := by
  rw [inside, List.foldl_append]
  rfl

end Interpretation

end RelationalQuery.Sql
