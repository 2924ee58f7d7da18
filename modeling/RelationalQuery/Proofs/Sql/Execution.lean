import RelationalQuery.Proofs.Json.DistinctNames
import RelationalQuery.Proofs.Sql.Stored
import RelationalQuery.Sql.Record

/-!
# Execution of assignments

The assignments of a statement are executed on a row one after the other.  Their values are computed
from the row as it was before the statement, so they are read in one scope throughout.

Three kinds of expressions occur in assignments only.  An operation combines the current value with
an operand; how numbers are computed is a parameter here, and a computation may fail.  A merge puts
entries into the stored object, and into an empty one where nothing is stored.  The trusted text for
JSON null is that value, while a missing value turns into JSON null when it is stored under a key.

Main definitions:

- `Arithmetic` computes operations, `Expr.assigned?` the value of an expression in an assignment.
- `Stored.put?` stores a value at a path of keys.
- `Assignment.execute?` and `Assignment.executeAll?` turn a row into another one.

Main results:

- `Assignment.executeAll?_keys`: assignments to keys of one column put their values into its object.
-/

namespace RelationalQuery

/-- The members with others put in one after the other. -/
def Members.override (members others : Members) : Members :=
  others.foldl (fun members other => members.insert other.1 other.2) members

/-- Members with distinct names are what they are put together from. -/
theorem Members.override_nil {members : Members} (distinct : members.keys.Nodup) :
    Members.override [] members = members :=
  Entries.foldl_put_of_nodup distinct

/-- Members that override others stand for their own values, and other names for what they did. -/
theorem Members.get?_override {members others : Members} (distinct : others.keys.Nodup)
    (key : String) :
    (members.override others).get? key = (others.get? key).or (members.get? key) := by
  induction others generalizing members with
  | nil => rfl
  | cons other rest ih =>
    obtain ⟨name, value⟩ := other
    rw [keys, List.map_cons, List.nodup_cons] at distinct
    have hrest : override members ((name, value) :: rest) =
        override (members.insert name value) rest := rfl
    rw [hrest, ih distinct.2, get?_insert]
    by_cases hkey : key = name
    · -- No later member has the name of this one.
      have hlater : get? rest key = none := Entries.lookup_eq_none_iff.2 (hkey ▸ distinct.1)
      rw [hlater, hkey, if_pos rfl, get?, List.lookup_cons_self, Option.none_or, Option.some_or]
    · have hother : (key == name) = false := beq_false_of_ne hkey
      simp [hkey, get?, List.lookup_cons, hother]

namespace Sql

/-! ## Values -/

/-- The results of operators in numeric types, of a current value and an operand.  Inside JSON the
current value is a text.  Some operations have no result. -/
abbrev Arithmetic := ArithmeticOperator → String → Stored → Json → Option Stored

namespace Stored

/-- The members of an object into which keys are stored; where nothing is stored there are none. -/
def members? : Stored → Option Members
  | none => some []
  | some value => value.members?

/-- What has members is an object. -/
theorem eq_object_of_members? {value : Json} {members : Members}
    (h : members? (some value) = some members) : value = .object members := by
  cases value <;> simp_all [members?, Json.members?]

/-- A value with another one at a path of keys; objects that are missing on the way are added. -/
def put? (value : Stored) : List String → Stored → Option Stored
  | [], new => some new
  | key :: rest, new => do
    let members ← value.members?
    let inner ← put? (members.get? key) rest new
    return some (.object (members.insert key inner.toJson))

end Stored

section

variable (arithmetic : Arithmetic) (db : Database Stored) (scope : Scope Stored)

mutual

/-- The value of an expression in an assignment.  A bound value that is JSON can be cast to it. -/
def Expr.assigned? : Expr → Option Stored
  | .operation target operator operand numericType => do
    let current : Expr := if target.path.isEmpty then .column target else .columnText target
    arithmetic operator numericType (← current.eval .stored db none scope) operand.value
  | .cast (.parameter bound) type =>
    if type = TypeHint.json.sqlType ∧ bound.hint? = some .json then
      (Expr.parameter bound).eval .stored db none scope
    else none
  | .merge target entries => do
    let stored ← (Expr.column target).eval .stored db none scope
    let members ← stored.members?
    let values ← Expr.assignedEntries? entries
    return some (.object (members.override (Members.override [] values)))
  | .raw text => if text = "'null'::jsonb" then some (some .null) else none
  | value => value.eval .stored db none scope

/-- The values of entries as members of an object. -/
def Expr.assignedEntries? : List (String × Expr) → Option Members
  | [] => some []
  | (key, value) :: rest => do
    let first ← value.assigned?
    return (key, first.toJson) :: (← Expr.assignedEntries? rest)

end

end

/-! ## Rows -/

namespace Assignment

variable (arithmetic : Arithmetic) (db : Database Stored) (scope : Scope Stored)

/-- A row after an assignment. -/
def execute? (assignment : Assignment) (row : Row Stored) : Option (Row Stored) := do
  let new ← assignment.value.assigned? arithmetic db scope
  let stored ← List.lookup assignment.target.name row
  return Entries.put row assignment.target.name (← stored.put? assignment.target.path new)

/-- A row after some assignments. -/
def executeAll? (assignments : List Assignment) (row : Row Stored) : Option (Row Stored) :=
  assignments.foldlM (fun row assignment => assignment.execute? arithmetic db scope row) row

end Assignment

/-! ## Values of entries -/

section

variable {arithmetic : Arithmetic} {db : Database Stored} {scope : Scope Stored}

namespace Expr

/-- The values of entries are members under the same names. -/
theorem keys_assignedEntries? {entries : List (String × Expr)} {values : Members}
    (h : assignedEntries? arithmetic db scope entries = some values) :
    values.keys = Entries.names entries := by
  induction entries generalizing values with
  | nil =>
    rw [assignedEntries?, Option.some.injEq] at h
    rw [← h]
    rfl
  | cons entry rest ih =>
    simp only [assignedEntries?, Option.bind_eq_bind, Option.bind_eq_some_iff, Option.pure_def,
      Option.some.injEq] at h
    obtain ⟨first, -, others, hothers, rfl⟩ := h
    simp only [Members.keys, Entries.names, List.map_cons] at ih ⊢
    rw [ih hothers]

/-- Each of the entries has its value among the members. -/
theorem mem_assignedEntries? {entries : List (String × Expr)} {values : Members}
    (h : assignedEntries? arithmetic db scope entries = some values) :
    ∀ entry ∈ entries, ∃ value, entry.2.assigned? arithmetic db scope = some value ∧
      (entry.1, value.toJson) ∈ values := by
  induction entries generalizing values with
  | nil => exact List.forall_mem_nil _
  | cons entry rest ih =>
    simp only [assignedEntries?, Option.bind_eq_bind, Option.bind_eq_some_iff, Option.pure_def,
      Option.some.injEq] at h
    obtain ⟨first, hfirst, others, hothers, rfl⟩ := h
    refine List.forall_mem_cons.2 ⟨⟨first, hfirst, List.mem_cons_self⟩, fun other hother => ?_⟩
    obtain ⟨value, hvalue, hmem⟩ := ih hothers other hother
    exact ⟨value, hvalue, List.mem_cons_of_mem _ hmem⟩

/-- The entries have values when each of them has one. -/
theorem isSome_assignedEntries? {entries : List (String × Expr)} :
    (assignedEntries? arithmetic db scope entries).isSome = true ↔
      ∀ entry ∈ entries, (entry.2.assigned? arithmetic db scope).isSome = true := by
  induction entries with
  | nil => simp [assignedEntries?]
  | cons entry rest ih =>
    rw [List.forall_mem_cons, ← ih, assignedEntries?]
    cases entry.2.assigned? arithmetic db scope <;>
      cases assignedEntries? arithmetic db scope rest <;> simp

end Expr

/-! ## Assignments to one column -/

namespace Assignment

variable {column : String} {row : Row Stored} {stored : Stored} {members : Members}

/-- An assignment to a column replaces its value. -/
theorem execute?_column {value : Expr} (held : List.lookup column row = some stored) :
    (Assignment.column column value).execute? arithmetic db scope row =
      (value.assigned? arithmetic db scope).map fun new => Entries.put row column new := by
  cases hnew : value.assigned? arithmetic db scope with
  | none => simp [execute?, Assignment.column, hnew]
  | some new => simp [execute?, Assignment.column, ColumnRef.plain, hnew, held, Stored.put?]

/-- An assignment to a key puts its value into the object of the column. -/
theorem execute?_key {key : String} {value : Expr} (held : List.lookup column row = some stored)
    (object : stored.members? = some members) :
    execute? arithmetic db scope ⟨(ColumnRef.plain column).key key, value⟩ row =
      (value.assigned? arithmetic db scope).map fun new =>
        Entries.put row column (some (.object (members.insert key new.toJson))) := by
  cases hnew : value.assigned? arithmetic db scope with
  | none => simp [execute?, hnew]
  | some new =>
    simp [execute?, ColumnRef.plain, ColumnRef.key, hnew, held, Stored.put?, object]

/-- Assignments to keys put their values into the object of the column.  Without any assignment the
object has to be there. -/
theorem executeAll?_keys {entries : List (String × Expr)}
    (held : List.lookup column row = some stored) (object : stored.members? = some members)
    (touched : entries ≠ [] ∨ stored ≠ none) :
    executeAll? arithmetic db scope
        (entries.map fun entry => ⟨(ColumnRef.plain column).key entry.1, entry.2⟩) row =
      (Expr.assignedEntries? arithmetic db scope entries).map fun values =>
        Entries.put row column (some (.object (members.override values))) := by
  induction entries generalizing row stored members with
  | nil =>
    obtain ⟨value, rfl⟩ := Option.ne_none_iff_exists'.1 (touched.resolve_left fun h => h rfl)
    obtain rfl := Stored.eq_object_of_members? object
    rw [Expr.assignedEntries?, Option.map_some, Members.override, List.foldl_nil,
      Entries.put_self held]
    rfl
  | cons entry rest ih =>
    rw [executeAll?, List.map_cons, List.foldlM_cons, execute?_key held object,
      Expr.assignedEntries?]
    cases hfirst : entry.2.assigned? arithmetic db scope with
    | none => rfl
    | some first =>
      let next := members.insert entry.1 first.toJson
      have hstored : List.lookup column (Entries.put row column (some (Json.object next))) =
          some (some (.object next)) := by
        rw [Entries.lookup_put, if_pos rfl]
      have hrest := ih hstored rfl (.inr (Option.some_ne_none _))
      simp only [Entries.put_put] at hrest
      refine hrest.trans ?_
      cases Expr.assignedEntries? arithmetic db scope rest <;> rfl

end Assignment

end

end Sql

end RelationalQuery
