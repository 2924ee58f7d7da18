import RelationalQuery.Binary64.Shortest
import RelationalQuery.Text.Decimal
import RelationalQuery.Entries

/-!
# JSON values

Queries, records, filters and defaults are JSON values.  Objects keep their members in the order in
which they were written, and a number is either an integer of at most 64 bits or a finite double, so
`1` and `1.0` are different values.

Main definitions:

- `Number` and `Json` are the values; `Members` is the ordered list of an object's members.
- `Json.members?`, `Json.items?`, `Json.string?`, `Json.bool?` and `Json.number?` view one kind.
- `Json.beq` decides equality; `Json.beq_eq_true_iff` says that it does.
-/

namespace RelationalQuery

/-! ## Numbers -/

/-- A JSON number: an integer between the least signed and the largest unsigned 64-bit integer, or a
finite double. -/
inductive Number where
  | integer (value : Int) (inRange : -0x8000000000000000 ≤ value ∧ value < 0x10000000000000000)
  | real (value : Binary64)
deriving DecidableEq

namespace Number

/-- The integer, when it is small enough to be a number. -/
def ofInt? (value : Int) : Option Number :=
  if h : -0x8000000000000000 ≤ value ∧ value < 0x10000000000000000 then some (.integer value h) else none

/-- An unsigned 64-bit integer as a number. -/
def ofUInt64 (value : UInt64) : Number :=
  .integer value.toNat ⟨by omega, by have := value.toNat_lt; omega⟩

/-- The integer of a number that is written as one. -/
def int? : Number → Option Int
  | .integer value _ => some value
  | .real _ => none

/-- The integer of a number, when it is a signed 64-bit integer. -/
def signed? (n : Number) : Option Int :=
  n.int?.filter (· < 0x8000000000000000)

/-- The integer of a number, when it is an unsigned 64-bit integer. -/
def unsigned? (n : Number) : Option UInt64 :=
  (n.int?.filter (0 ≤ ·)).map fun value => UInt64.ofNat value.toNat

/-- The double nearest to a number. -/
def toBinary64 : Number → Binary64
  | .integer value _ =>
    (Binary64.ofRatio? (decide (value < 0)) value.natAbs 1).getD Binary64.zero
  | .real value => value

/-- The number has no fractional part. -/
def isIntegral : Number → Bool
  | .integer .. => true
  | .real value => value.isIntegral

/-- The text of a number. -/
def text : Number → String
  | .integer value _ => Text.integer value
  | .real value => value.text

end Number

/-! ## Values -/

/-- A JSON value; the members of an object keep their order. -/
inductive Json where
  | null
  | bool (value : Bool)
  | number (value : Number)
  | string (value : String)
  | array (items : List Json)
  | object (members : List (String × Json))
deriving Inhabited

/-- The members of an object in their order. -/
abbrev Members := List (String × Json)

namespace Members

/-- The value of the first member with the given name. -/
def get? (members : Members) (key : String) : Option Json := members.lookup key

/-- Some member has the given name. -/
def contains (members : Members) (key : String) : Bool := (members.get? key).isSome

/-- Replace the value of a member in place, or append a new member. -/
abbrev insert (members : Members) (key : String) (value : Json) : Members :=
  Entries.put members key value

/-- The names of the members. -/
def keys (members : Members) : List String := members.map (·.1)

end Members

namespace Json

/-! ## Views of one kind -/

/-- The value is null. -/
def isNull : Json → Bool
  | .null => true
  | _ => false

theorem isNull_iff {value : Json} : value.isNull = true ↔ value = .null := by
  cases value <;> simp [isNull]

/-- The value is an object. -/
def isObject : Json → Bool
  | .object _ => true
  | _ => false

/-- The members of an object. -/
def members? : Json → Option Members
  | .object members => some members
  | _ => none

/-- The items of an array. -/
def items? : Json → Option (List Json)
  | .array items => some items
  | _ => none

/-- The text of a string. -/
def string? : Json → Option String
  | .string value => some value
  | _ => none

/-- The truth value of a boolean. -/
def bool? : Json → Option Bool
  | .bool value => some value
  | _ => none

/-- The number of a numeric value. -/
def number? : Json → Option Number
  | .number value => some value
  | _ => none

/-- The unsigned 64-bit integer of a number written as one. -/
def unsigned? (value : Json) : Option UInt64 := value.number?.bind Number.unsigned?

/-- An unsigned 64-bit integer as a value. -/
def ofUInt64 (value : UInt64) : Json := .number (.ofUInt64 value)

/-! ## Equality -/

mutual

/-- Two values are equal, members in the same order. -/
def beq : Json → Json → Bool
  | .null, .null => true
  | .bool a, .bool b => a == b
  | .number a, .number b => decide (a = b)
  | .string a, .string b => a == b
  | .array a, .array b => beqItems a b
  | .object a, .object b => beqMembers a b
  | _, _ => false

/-- Two lists of items are equal. -/
def beqItems : List Json → List Json → Bool
  | [], [] => true
  | a :: as, b :: bs => beq a b && beqItems as bs
  | _, _ => false

/-- Two lists of members are equal. -/
def beqMembers : List (String × Json) → List (String × Json) → Bool
  | [], [] => true
  | (k, a) :: as, (l, b) :: bs => k == l && beq a b && beqMembers as bs
  | _, _ => false

end

mutual

/-- Boolean equality of values is equality. -/
theorem beq_eq_true_iff : ∀ a b : Json, beq a b = true ↔ a = b
  | .null, b => by cases b <;> simp [beq]
  | .bool _, b => by cases b <;> simp [beq]
  | .number _, b => by cases b <;> simp [beq]
  | .string _, b => by cases b <;> simp [beq]
  | .array a, b => by
    cases b with
    | array b => simp [beq, beqItems_eq_true_iff a b]
    | _ => simp [beq]
  | .object a, b => by
    cases b with
    | object b => simp [beq, beqMembers_eq_true_iff a b]
    | _ => simp [beq]

/-- Boolean equality of items is equality. -/
theorem beqItems_eq_true_iff : ∀ a b : List Json, beqItems a b = true ↔ a = b
  | [], b => by cases b <;> simp [beqItems]
  | a :: as, b => by
    cases b with
    | nil => simp [beqItems]
    | cons b bs => simp [beqItems, beq_eq_true_iff a b, beqItems_eq_true_iff as bs]

/-- Boolean equality of members is equality. -/
theorem beqMembers_eq_true_iff :
    ∀ a b : List (String × Json), beqMembers a b = true ↔ a = b
  | [], b => by cases b <;> simp [beqMembers]
  | (k, a) :: as, b => by
    cases b with
    | nil => simp [beqMembers]
    | cons b bs =>
      obtain ⟨l, b⟩ := b
      simp [beqMembers, beq_eq_true_iff a b, beqMembers_eq_true_iff as bs]

end

instance : BEq Json := ⟨beq⟩

instance : LawfulBEq Json where
  eq_of_beq h := (beq_eq_true_iff _ _).1 h
  rfl := (beq_eq_true_iff _ _).2 rfl

instance : DecidableEq Json := fun a b =>
  decidable_of_iff (beq a b = true) (beq_eq_true_iff a b)

end Json

end RelationalQuery
