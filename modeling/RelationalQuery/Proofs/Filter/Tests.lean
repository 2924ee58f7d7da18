import RelationalQuery.Proofs.Filter.Column
import RelationalQuery.Proofs.Filter.Derivation
import RelationalQuery.Proofs.Parameter

/-!
# Tests in filters

The entry of a column in a filter is a list of tests: operators with their operands, for the column or
for keys inside it.  Every test becomes one condition, and this condition stands in the condition of
the filter, at whatever depth the entry stands in the filter.  An operand that is null is never
bound.  It becomes a null check or the literal null.

Main definitions:

- `ColumnTest` is a test; `columnTests` are the tests of the entry of a column.
- `ColumnTest.NullIsLiteral` says what null in a test becomes.
- `Repository.HasEntry` says that the entry of a column stands in a part of a filter.
- `Condition.StandsIn` says that a condition is a part of another one.

Main results:

- `predicates_compiled`: the conditions of the entry of a column are those of its tests.
- `ColumnTest.Compiled.nullIsLiteral`: null in a test is not bound.
- `FilterContext.tests_of_condition`: the conditions of all tests stand in the condition of a filter.
-/

namespace RelationalQuery

open Sql (ColumnRef Comparison Condition Expr)

/-! ## Tests of columns -/

/-- An operator with its operand for a column, or for a key inside it. -/
structure ColumnTest where
  column : ColumnRef
  field? : Option Field
  operator : FilterOperator
  operand : Json

mutual

/-- The tests of the entry of a column: a value that is not an object is compared for equality. -/
def columnTests (field? : Option Field) (column : ColumnRef) : Json → List ColumnTest
  | .object members => memberTests field? column members
  | value => [⟨column, field?, .equal, value⟩]

/-- The tests of the members of an entry: those of a declared key, an operator, or those of another
key inside the column. -/
def memberTests (field? : Option Field) (column : ColumnRef) :
    List (String × Json) → List ColumnTest
  | [] => []
  | (key, value) :: rest =>
    let first :=
      match field?.bind (·.declared? key) with
      | some child => columnTests (some child) (column.key key) value
      | none =>
        match operatorNamed? key with
        | some operator => [⟨column, field?, operator, value⟩]
        | none => columnTests none (column.key key) value
    first ++ memberTests field? column rest

end

section

variable {field? : Option Field} {column : ColumnRef} {key : String} {value : Json}
  {rest : List (String × Json)}

/-- The tests of a key inside a column are for the value inside it. -/
theorem memberTests_nested {child? : Option Field} (reading : KeyReading field? key (.nested child?)) :
    memberTests field? column ((key, value) :: rest) =
      columnTests child? (column.key key) value ++ memberTests field? column rest := by
  cases reading with
  | declared known => simp only [memberTests, known]
  | extension undeclared unnamed => simp only [memberTests, undeclared, unnamed]

/-- An operator is a test of its own. -/
theorem memberTests_operator {operator : FilterOperator}
    (reading : KeyReading field? key (.operator operator)) :
    memberTests field? column ((key, value) :: rest) =
      ⟨column, field?, operator, value⟩ :: memberTests field? column rest := by
  cases reading with
  | operator undeclared named =>
    simp only [memberTests, undeclared, named, List.singleton_append]

end

namespace ColumnTest

/-- A condition is the one of a test. -/
def Compiled (test : ColumnTest) (condition : Condition) : Prop :=
  ∃ path, test.operator.condition test.operand test.field? test.column path = .ok condition

/-- A condition is written without binding null in a test: null as the operand is a null check or
the literal, and in a list or a range it is the literal. -/
structure NullIsLiteral (test : ColumnTest) (condition : Condition) : Prop where
  operand : test.operand = .null →
    (test.operator = .equal ∧ condition = .nullCheck (.column test.column) true) ∨
      (test.operator = .notEqual ∧ condition = .nullCheck (.column test.column) false) ∨
        ∃ comparison, condition = .compare (.column test.column) comparison .null
  items : ∀ items, test.operator = .isIn → test.operand = .array items →
    ∃ exprs, condition = .inList (.column test.column) exprs ∧
      List.Forall₂ (fun item expr => item = Json.null → expr = Expr.null) items exprs
  range : ∀ low high, test.operator = .isBetween → test.operand = .array [low, high] →
    ∃ lowExpr highExpr, condition = .between (.column test.column) lowExpr highExpr ∧
      (low = .null → lowExpr = .null) ∧ (high = .null → highExpr = .null)

end ColumnTest

/-- Null as an operand is the literal. -/
theorem operandExpr_null {value : Json} {field? : Option Field} {column : ColumnRef} {expr : Expr}
    (h : operandExpr value field? column = .ok expr) : value = .null → expr = .null := by
  rintro rfl
  exact (Except.ok.inj h).symm

namespace ColumnTest

variable {test : ColumnTest} {condition : Condition}

/-- Null in a test is not bound. -/
theorem Compiled.nullIsLiteral (h : test.Compiled condition) : test.NullIsLiteral condition := by
  obtain ⟨column, field?, operator, operand⟩ := test
  obtain ⟨path, h⟩ := h
  have hcompiles := FilterOperator.compiles_of_condition h
  constructor
  · rintro rfl
    cases hcompiles with
    | equalNull => exact .inl ⟨rfl, rfl⟩
    | notEqualNull => exact .inr (.inl ⟨rfl, rfl⟩)
    | compare _ _ operand =>
      rw [operandExpr_null operand rfl]
      exact .inr (.inr ⟨_, rfl⟩)
  · rintro items rfl rfl
    cases hcompiles with
    | isIn operands => exact ⟨_, rfl, operands.imp fun _ _ => operandExpr_null⟩
    | compare named => cases named
  · rintro low high rfl rfl
    cases hcompiles with
    | isBetween lower upper =>
      exact ⟨_, _, rfl, operandExpr_null lower, operandExpr_null upper⟩
    | compare named => cases named

end ColumnTest

mutual

/-- The conditions of the entry of a column are those of its tests, in their order. -/
theorem predicates_compiled : ∀ {field? : Option Field} {column : ColumnRef} {path : String}
    {value : Json} {conditions : List Condition},
      predicates field? column path value = .ok conditions →
        List.Forall₂ ColumnTest.Compiled (columnTests field? column value) conditions
  | field?, column, path, .null, conditions, h => by
    rw [predicates, Except.ok.injEq] at h
    rw [← h, columnTests]
    · exact .cons ⟨path, rfl⟩ .nil
    · nofun
  | field?, column, path, .object members, conditions, h => by
    rw [predicates] at h
    rw [columnTests]
    exact memberPredicates_compiled h
  | field?, column, path, .array items, conditions, h => by
    rw [predicates] at h
    split at h
    · simp only [bind_eq_ok_iff, pure_eq_ok_iff] at h
      obtain ⟨right, hright, rfl⟩ := h
      rw [columnTests]
      · exact .cons ⟨path, map_eq_ok_iff.2 ⟨right, hright, rfl⟩⟩ .nil
      · nofun
    · simp at h
  | field?, column, path, .bool _, conditions, h
  | field?, column, path, .number _, conditions, h
  | field?, column, path, .string _, conditions, h => by
    simp only [predicates, bind_eq_ok_iff, pure_eq_ok_iff] at h
    obtain ⟨right, hright, rfl⟩ := h
    rw [columnTests]
    · exact .cons ⟨path, map_eq_ok_iff.2 ⟨right, hright, rfl⟩⟩ .nil
    · nofun

/-- The conditions of the members of an entry are those of their tests. -/
theorem memberPredicates_compiled : ∀ {field? : Option Field} {column : ColumnRef}
    {path : String} {members : List (String × Json)} {conditions : List Condition},
    memberPredicates field? column path members = .ok conditions →
      List.Forall₂ ColumnTest.Compiled (memberTests field? column members) conditions
  | field?, column, path, [], conditions, h => by
    rw [memberPredicates, Except.ok.injEq] at h
    rw [← h, memberTests]
    exact .nil
  | field?, column, path, (key, value) :: rest, conditions, h => by
    rw [memberPredicates] at h
    have hreading := keyReading_of_ofKey field? key
    cases hkey : PredicateKey.ofKey field? key with
    | nested child? =>
      simp only [hkey, bind_eq_ok_iff, pure_eq_ok_iff] at h
      obtain ⟨first, hfirst, others, hothers, rfl⟩ := h
      rw [hkey] at hreading
      rw [memberTests_nested hreading]
      exact List.rel_append (predicates_compiled hfirst) (memberPredicates_compiled hothers)
    | operator operator =>
      simp only [hkey, bind_eq_ok_iff, pure_eq_ok_iff] at h
      obtain ⟨condition, hcondition, _, rfl, others, hothers, rfl⟩ := h
      rw [hkey] at hreading
      rw [memberTests_operator hreading]
      exact .cons ⟨_, hcondition⟩ (memberPredicates_compiled hothers)
    | unexpected | unknownOperator => simp [hkey, bind, Except.bind] at h

end

/-- The tests of the entry of a column in a filter over a table. -/
def Table.columnTests (table : Table) (scope? : Option String) (column : String) (value : Json) :
    List ColumnTest :=
  RelationalQuery.columnTests (table.schema.get? column) ⟨scope?, column, []⟩ value

/-- The conditions of an entry are those of its tests. -/
theorem Table.columnConditions_compiled {table : Table} {scope? : Option String}
    {path key : String} {value : Json} {conditions : List Condition}
    (h : table.columnConditions scope? path key value = .ok conditions) :
    List.Forall₂ ColumnTest.Compiled (table.columnTests scope? key value) conditions := by
  simp only [columnConditions, bind_eq_ok_iff] at h
  obtain ⟨field, hfield, h⟩ := h
  rw [Table.columnTests, ObjectSchema.get?_of_field hfield]
  exact predicates_compiled h

/-! ## Conditions inside conditions -/

/-- A condition is a part of another one, at any depth. -/
inductive Sql.Condition.StandsIn (part : Condition) : Condition → Prop
  | self : StandsIn part part
  | and {conditions : List Condition} {condition : Condition} (mem : condition ∈ conditions)
      (inner : StandsIn part condition) : StandsIn part (.and conditions)
  | or {conditions : List Condition} {condition : Condition} (mem : condition ∈ conditions)
      (inner : StandsIn part condition) : StandsIn part (.or conditions)
  | not {condition : Condition} (inner : StandsIn part condition) : StandsIn part (.not condition)
  | exists {query : Sql.Select} {negated : Bool} {condition : Condition}
      (restricted : query.where? = some condition) (inner : StandsIn part condition) :
      StandsIn part (.exists query negated)

namespace Sql.Condition

variable {part condition : Condition} {conditions : List Condition}

/-- A condition on a column is not a group of conditions. -/
theorem OnColumn.parts_eq {qualifier? : Option String} {name : String}
    (h : condition.OnColumn qualifier? name) : condition.parts = [condition] := by
  cases h <;> rfl

/-- What stands in one of several conditions stands in their conjunction. -/
theorem standsIn_all (mem : condition ∈ conditions) (inner : part.StandsIn condition) :
    ∃ whole, all conditions = some whole ∧ part.StandsIn whole := by
  unfold all
  split
  · cases mem
  · rw [List.mem_singleton.1 mem] at inner
    exact ⟨_, rfl, inner⟩
  · exact ⟨_, rfl, .and mem inner⟩

/-- What stands in the condition of an entry stands in that of all entries. -/
theorem standsIn_ofEntries (mem : condition ∈ conditions) (inner : part.StandsIn condition) :
    part.StandsIn (ofEntries conditions) := by
  obtain ⟨whole, hwhole, hinner⟩ := standsIn_all mem inner
  rwa [ofEntries, hwhole]

/-- It stands in the condition of a group as well. -/
theorem standsIn_ofGroup {isDisjunction : Bool} (mem : condition ∈ conditions)
    (inner : part.StandsIn condition) :
    ∃ whole ∈ ofGroup isDisjunction conditions, part.StandsIn whole := by
  cases isDisjunction with
  | false => exact ⟨condition, mem, inner⟩
  | true => exact ⟨_, List.mem_singleton_self _, .or mem inner⟩

/-- A part that is no group stays when its condition is joined with another one. -/
theorem standsIn_andAlso (single : part.parts = [part]) (join : Condition)
    (inner : part.StandsIn condition) : part.StandsIn (join.andAlso condition) := by
  have hparts : ∃ other ∈ condition.parts, part.StandsIn other := by
    cases inner with
    | self =>
      rw [single]
      exact ⟨part, List.mem_singleton_self _, .self⟩
    | and mem inner => exact ⟨_, mem, inner⟩
    | or mem inner => exact ⟨_, List.mem_singleton_self _, .or mem inner⟩
    | not inner => exact ⟨_, List.mem_singleton_self _, .not inner⟩
    | «exists» restricted inner => exact ⟨_, List.mem_singleton_self _, .exists restricted inner⟩
  obtain ⟨other, hother, hinner⟩ := hparts
  exact .and (List.mem_append_right _ hother) hinner

end Sql.Condition

/-! ## Entries of columns in filters -/

/-- The entry of a column stands in a part of a filter over a table, at any depth; a relation leads
to its related table. -/
inductive Repository.HasEntry (repository : Repository) (owner : Table) (column : String)
    (value : Json) : Table → FilterTask → Prop
  | first {table : Table} {key : String} {kind : FilterEntry} {entry : Json}
      {rest : List (String × Json)} (reading : table.ReadsAs key kind)
      (inner : HasEntry repository owner column value table (.entry key kind entry)) :
      HasEntry repository owner column value table (.members ((key, entry) :: rest))
  | later {table : Table} {member : String × Json} {rest : List (String × Json)}
      (inner : HasEntry repository owner column value table (.members rest)) :
      HasEntry repository owner column value table (.members (member :: rest))
  | column : HasEntry repository owner column value owner (.entry column .column value)
  | group {table : Table} {key : String} {isDisjunction : Bool} {items : List Json}
      (inner : HasEntry repository owner column value table (.items items)) :
      HasEntry repository owner column value table (.entry key (.group isDisjunction) (.array items))
  | single {table : Table} {key : String} {isDisjunction : Bool} {members : List (String × Json)}
      (inner : HasEntry repository owner column value table (.members members)) :
      HasEntry repository owner column value table
        (.entry key (.group isDisjunction) (.object members))
  | negation {table : Table} {key : String} {members : List (String × Json)}
      (inner : HasEntry repository owner column value table (.members members)) :
      HasEntry repository owner column value table (.entry key .negation (.object members))
  | related {table related : Table} {key : String} {relation : Relation}
      {members : List (String × Json)}
      (known : repository.table? relation.relatedTable = some related)
      (inner : HasEntry repository owner column value related (.members members)) :
      HasEntry repository owner column value table
        (.entry key (.relation relation) (.object members))
  | firstItem {table : Table} {members : List (String × Json)} {rest : List Json}
      (inner : HasEntry repository owner column value table (.members members)) :
      HasEntry repository owner column value table (.items (.object members :: rest))
  | laterItem {table : Table} {item : Json} {rest : List Json}
      (inner : HasEntry repository owner column value table (.items rest)) :
      HasEntry repository owner column value table (.items (item :: rest))

/-- The conditions of the entry of a column stand in some conditions. -/
def Table.EntryStands (owner : Table) (column : String) (value : Json)
    (conditions : List Condition) : Prop :=
  ∃ scope? path parts, owner.columnConditions scope? path column value = .ok parts ∧
    ∀ part ∈ parts, ∃ condition ∈ conditions, part.StandsIn condition

/-- Conditions still stand in others if whatever is no group and stands in the former does. -/
theorem Table.EntryStands.imp {owner : Table} {column : String} {value : Json}
    {conditions others : List Condition} (h : owner.EntryStands column value conditions)
    (keep : ∀ part condition : Condition, part.parts = [part] → condition ∈ conditions →
      part.StandsIn condition → ∃ other ∈ others, part.StandsIn other) :
    owner.EntryStands column value others := by
  obtain ⟨scope?, path, parts, hparts, hstand⟩ := h
  refine ⟨scope?, path, parts, hparts, fun part hpart => ?_⟩
  obtain ⟨condition, hcondition, hstands⟩ := hstand part hpart
  have hsingle := ((columnConditions_onColumn hparts).2 part hpart).parts_eq
  exact keep part condition hsingle hcondition hstands

namespace FilterContext

variable {context : FilterContext} {owner table : Table} {column : String} {value : Json}

/-- The conditions of the entries of columns in a filter stand in the conditions of the filter. -/
theorem Derives.entryStands {scope? : Option String} {task : FilterTask}
    {conditions : List Condition} {n m : Nat}
    (h : context.Derives table scope? task n conditions m)
    (entry : context.repository.HasEntry owner column value table task) :
    owner.EntryStands column value conditions := by
  induction h with
  | nil | noItems | unrelated => cases entry
  | cons _ _ ihHead ihTail =>
    cases entry with
    | first reading inner =>
      obtain rfl := Table.readsAs_iff.1 reading
      exact (ihHead inner).imp fun _ condition _ mem inside =>
        ⟨condition, List.mem_append_left _ mem, inside⟩
    | later inner =>
      exact (ihTail inner).imp fun _ condition _ mem inside =>
        ⟨condition, List.mem_append_right _ mem, inside⟩
  | group _ ih =>
    cases entry with
    | group inner => exact (ih inner).imp fun _ _ _ mem inside =>
        Condition.standsIn_ofGroup mem inside
  | single _ ih =>
    cases entry with
    | single inner =>
      exact (ih inner).imp fun _ _ _ mem inside => Condition.standsIn_ofGroup
        (List.mem_singleton_self _) (Condition.standsIn_ofEntries mem inside)
  | negation _ ih =>
    cases entry with
    | negation inner =>
      exact (ih inner).imp fun _ _ _ mem inside =>
        ⟨_, List.mem_singleton_self _, .not (Condition.standsIn_ofEntries mem inside)⟩
  | related hrelated _ ih =>
    cases entry with
    | related known inner =>
      obtain rfl := Option.some.inj (hrelated.symm.trans known)
      refine (ih inner).imp fun part _ hsingle mem inside => ?_
      obtain ⟨whole, hwhole, hwholeInside⟩ := Condition.standsIn_all mem inside
      refine ⟨_, List.mem_singleton_self _, .exists rfl ?_⟩
      rw [hwhole]
      exact Condition.standsIn_andAlso hsingle _ hwholeInside
  | column hparts =>
    cases entry with
    | column => exact ⟨_, _, _, hparts, fun part hpart => ⟨part, hpart, .self⟩⟩
  | item _ _ ihHead ihTail =>
    cases entry with
    | firstItem inner =>
      exact (ihHead inner).imp fun _ _ _ mem inside =>
        ⟨_, List.mem_cons_self, Condition.standsIn_ofEntries mem inside⟩
    | laterItem inner =>
      exact (ihTail inner).imp fun _ condition _ mem inside =>
        ⟨condition, List.mem_cons_of_mem _ mem, inside⟩

/-- The conditions of all tests of a filter stand in its condition. -/
theorem tests_of_condition {members : Members} {scope? : Option String} {path : String}
    {condition? : Option Condition} {n m : Nat}
    (compiled : Returns (context.condition (.object members) table scope? path) n condition? m)
    (entry : context.repository.HasEntry owner column value table (.members members)) :
    ∃ scope?, ∀ test ∈ owner.columnTests scope? column value,
      ∃ condition ∈ condition?, ∃ part, part.StandsIn condition ∧ test.Compiled part := by
  obtain ⟨_, conditions, hmembers, rfl, derives⟩ := derives_of_condition compiled
  obtain rfl := Json.object.inj hmembers
  obtain ⟨inner?, _, parts, hparts, hinside⟩ := derives.entryStands entry
  refine ⟨inner?, fun test htest => ?_⟩
  obtain ⟨part, hpart, hcompiled⟩ :=
    exists_mem_of_forall₂ (Table.columnConditions_compiled hparts).flip htest
  obtain ⟨condition, hcondition, hstands⟩ := hinside part hpart
  obtain ⟨whole, hwhole, hinside⟩ := Condition.standsIn_all hcondition hstands
  exact ⟨whole, hwhole, part, hinside, hcompiled⟩

end FilterContext

end RelationalQuery
