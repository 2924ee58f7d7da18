import RelationalQuery.Json.Record

/-!
# Descriptions of queries

Main definitions:

- `InsertQuery`, `UpdateQuery`, `SelectQuery`, `DeleteQuery` and `CountQuery` describe queries; each
  is read by `ofJson?` and written by `toJson`.
-/

namespace RelationalQuery

/-- The members of the fields that are there. -/
def presentMembers (fields : List (String × Option Json)) : Members :=
  fields.filterMap fun entry => entry.2.map fun value => (entry.1, value)

/-! ## Inserts -/

/-- A new row with its related rows. -/
structure InsertQuery where
  data : Json
  select? : Option Json
  include? : Option Json

namespace InsertQuery

/-- Read an insert; the data has to be there. -/
def ofJson? (value : Json) : Option InsertQuery := do
  match ← value.record? .closed ["data", "select", "include"] with
  | [some data, select, includes] => return ⟨data, Json.present? select, Json.present? includes⟩
  | _ => none

/-- The JSON form of an insert. -/
def toJson (query : InsertQuery) : Json :=
  .object (presentMembers
    [("data", some query.data), ("select", query.select?), ("include", query.include?)])

end InsertQuery

/-! ## Updates -/

/-- New values for the rows that fulfil a filter. -/
structure UpdateQuery where
  data : Json
  filter? : Option Json
  select? : Option Json
  include? : Option Json

namespace UpdateQuery

/-- Read an update; the data has to be there. -/
def ofJson? (value : Json) : Option UpdateQuery := do
  match ← value.record? .closed ["data", "where", "select", "include"] with
  | [some data, filter, select, includes] =>
    return ⟨data, Json.present? filter, Json.present? select, Json.present? includes⟩
  | _ => none

/-- The JSON form of an update. -/
def toJson (query : UpdateQuery) : Json :=
  .object (presentMembers [("data", some query.data), ("where", query.filter?),
    ("select", query.select?), ("include", query.include?)])

end UpdateQuery

/-! ## Selections -/

/-- The rows that fulfil a filter, in an order and in a number. -/
structure SelectQuery where
  select? : Option Json
  filter? : Option Json
  include? : Option Json
  order? : Option Json
  skip? : Option UInt64
  take? : Option UInt64

namespace SelectQuery

/-- The query for all rows. -/
def all : SelectQuery := ⟨none, none, none, none, none, none⟩

/-- Read a selection. -/
def ofJson? (value : Json) : Option SelectQuery := do
  match ← value.record? .closed ["select", "where", "include", "order", "skip", "take"] with
  | [select, filter, includes, order, skip, take] =>
    return {
      select? := Json.present? select
      filter? := Json.present? filter
      include? := Json.present? includes
      order? := Json.present? order
      skip? := ← Json.optional? Json.unsigned? skip
      take? := ← Json.optional? Json.unsigned? take }
  | _ => none

/-- The JSON form of a selection. -/
def toJson (query : SelectQuery) : Json :=
  .object (presentMembers [("select", query.select?), ("where", query.filter?),
    ("include", query.include?), ("order", query.order?), ("skip", query.skip?.map Json.ofUInt64),
    ("take", query.take?.map Json.ofUInt64)])

end SelectQuery

/-! ## Deletes -/

/-- The removal of the rows that fulfil a filter. -/
structure DeleteQuery where
  filter? : Option Json
  select? : Option Json
  include? : Option Json

namespace DeleteQuery

/-- Read a delete. -/
def ofJson? (value : Json) : Option DeleteQuery := do
  match ← value.record? .closed ["where", "select", "include"] with
  | [filter, select, includes] =>
    return ⟨Json.present? filter, Json.present? select, Json.present? includes⟩
  | _ => none

/-- The JSON form of a delete. -/
def toJson (query : DeleteQuery) : Json :=
  .object (presentMembers
    [("where", query.filter?), ("select", query.select?), ("include", query.include?)])

end DeleteQuery

/-! ## Counts -/

/-- The number of the rows that fulfil a filter. -/
structure CountQuery where
  filter? : Option Json

namespace CountQuery

/-- Read a count. -/
def ofJson? (value : Json) : Option CountQuery := do
  match ← value.record? .closed ["where"] with
  | [filter] => return ⟨Json.present? filter⟩
  | _ => none

/-- The JSON form of a count. -/
def toJson (query : CountQuery) : Json := .object (presentMembers [("where", query.filter?)])

end CountQuery

end RelationalQuery
