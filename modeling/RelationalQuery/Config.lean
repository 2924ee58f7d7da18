import RelationalQuery.Json.Record

/-!
# Configuration of compilations

Main definitions:

- `PlaceholderStyle` says how parameters are written in the text of a statement.
- `Config` holds the style, the stems of generated names and the limit on logged text.
- `Config.ofJson?` and `Config.toJson` are its JSON form.
-/

namespace RelationalQuery

/-- How the place of a parameter is written. -/
inductive PlaceholderStyle where
  /-- A colon and the index, counted from zero. -/
  | named
  /-- A dollar sign and the index, counted from one. -/
  | dollar
deriving DecidableEq

namespace PlaceholderStyle

/-- The text at the place of the parameter with an index, counted from zero. -/
def placeholder : PlaceholderStyle → Nat → String
  | .named, index => ":" ++ Text.natural index
  | .dollar, index => "$" ++ Text.natural (index + 1)

/-- The word of a style. -/
def name : PlaceholderStyle → String
  | .named => "named"
  | .dollar => "dollar"

/-- The style with a given word. -/
def ofName? (name : String) : Option PlaceholderStyle :=
  [named, dollar].find? (·.name == name)

/-- Read a style. -/
def ofJson? (value : Json) : Option PlaceholderStyle := (value.name? Json.isNull).bind ofName?

end PlaceholderStyle

/-- The settings of a compiler: the style of placeholders, the stems of the names of statements in a
chain, of subqueries in projections and of subqueries in filters, and the number of bytes after
which logged text is cut. -/
structure Config where
  placeholderStyle : PlaceholderStyle
  chainStem : String
  projectionStem : String
  filterStem : String
  maxLoggedLength? : Option UInt64
deriving DecidableEq

namespace Config

/-- The settings that hold unless others are given. -/
def default : Config := ⟨.named, "R", "S", "W", some 200⟩

/-- The keys of the settings in JSON, in their order. -/
def keys : List String :=
  ["placeholder_style", "cte_prefix", "select_alias_prefix", "filter_alias_prefix",
    "max_logged_sql_length"]

/-- Read settings; absent ones have their default, and a null limit is none. -/
def ofJson? (value : Json) : Option Config := do
  match ← value.record? .openToOthers keys with
  | [style, chain, projection, filter, limit] =>
    return {
      placeholderStyle := ← match style with
        | none => some default.placeholderStyle
        | some value => PlaceholderStyle.ofJson? value
      chainStem := ← Json.stringOr? default.chainStem chain
      projectionStem := ← Json.stringOr? default.projectionStem projection
      filterStem := ← Json.stringOr? default.filterStem filter
      maxLoggedLength? := ← match limit with
        | none => some default.maxLoggedLength?
        | limit => Json.optional? Json.unsigned? limit }
  | _ => none

/-- The JSON form of settings. -/
def toJson (config : Config) : Json :=
  .object (keys.zip
    [.string config.placeholderStyle.name, .string config.chainStem,
      .string config.projectionStem, .string config.filterStem,
      (config.maxLoggedLength?.map Json.ofUInt64).getD .null])

end Config

end RelationalQuery
