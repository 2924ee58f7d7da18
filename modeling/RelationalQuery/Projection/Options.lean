import RelationalQuery.Json.Record
import RelationalQuery.Json.Size
import RelationalQuery.Error

/-!
# Options of included relations

An entry of an include tree is true, or an object that filters, orders, counts and selects the
related rows.

Main definitions:

- `IncludeOptions` are the options; `IncludeOptions.ofEntry` takes them from an entry.
- `IncludeOptions.check` refuses malformed entries, and `IncludeOptions.parse` does both.
- `IncludeOptions.size_le` bounds the trees inside an entry by the entry.
-/

namespace RelationalQuery

/-- How the rows of an included relation are filtered, ordered, counted and selected. -/
structure IncludeOptions where
  filter? : Option Json
  order? : Option Json
  skip? : Option UInt64
  take? : Option UInt64
  select? : Option Json
  include? : Option Json

namespace IncludeOptions

/-- The options in the members of an entry. -/
def ofMembers (members : Members) : IncludeOptions where
  filter? := members.get? "where"
  order? := members.get? "order"
  skip? := (members.get? "skip").bind Json.unsigned?
  take? := (members.get? "take").bind Json.unsigned?
  select? := members.get? "select"
  include? := members.get? "include"

/-- The options of an entry, which are empty unless it is an object. -/
def ofEntry (included? : Option Json) : IncludeOptions :=
  match included? with
  | some (.object members) => ofMembers members
  | _ => ofMembers []

/-- The rows are limited in number or some are skipped. -/
def isPaginated (options : IncludeOptions) : Bool := options.skip?.isSome || options.take?.isSome

/-- The options that hold trees and texts of any form. -/
def freeKeys : List String := ["where", "order", "select", "include"]

/-- The options that hold counts. -/
def countKeys : List String := ["skip", "take"]

/-- Check a member of an entry. -/
def checkMember (path : String) (member : String × Json) : Except QueryError Unit :=
  let keyPath := joinPath path member.1
  if freeKeys.contains member.1 then .ok ()
  else if countKeys.contains member.1 then
    if member.2.unsigned?.isSome then .ok () else .error (.malformed keyPath .notACount)
  else .error (.unexpectedField keyPath)

/-- Check an entry: it is absent, true, or an object of options. -/
def check (included? : Option Json) (path : String) : Except QueryError Unit :=
  match included? with
  | none => .ok ()
  | some (.bool true) => .ok ()
  | some (.object members) => members.forM (checkMember path)
  | some _ => .error (.malformed path .includeEntryNotOptions)

/-- Check an entry and take its options. -/
def parse (included? : Option Json) (path : String) : Except QueryError IncludeOptions := do
  check included? path
  return ofEntry included?

end IncludeOptions

/-- The select and include trees inside an entry are together no larger than the entry. -/
theorem IncludeOptions.size_le (included? : Option Json) :
    Json.sizeOrZero (ofEntry included?).select? + Json.sizeOrZero (ofEntry included?).include? ≤
      Json.sizeOrZero included? := by
  unfold ofEntry
  split
  · rename_i members
    have h := Json.size_get?_add_le members "select" "include" (by decide)
    simp only [ofMembers, Json.sizeOrZero, Json.size] at h ⊢
    omega
  · simp [ofMembers, Members.get?, Json.sizeOrZero]

end RelationalQuery
