import RelationalQuery.Proofs.Filter.Tests
import RelationalQuery.Proofs.Json.Keys
import RelationalQuery.Proofs.Sql.Keyed

/-!
# The literals of filters

A filter binds its operands, and names of columns are no literals.  So the only literals in the
condition of a filter are keys inside columns, and these are keys of the filter.

Main definitions:

- `FilterTask.allKeys` are the keys inside a part of a filter.

Main results:

- `ColumnTest.Compiled.keyed`: the literals of a test are the keys of its path.
- `FilterContext.keyed_condition`: the literals of a filter are keys of it.
-/

namespace RelationalQuery

open Sql (ColumnRef Condition Expr FromItem Keyed Projection Select)

/-! ## Tests -/

/-- An operand is bound or null. -/
theorem pieces_operandExpr {value : Json} {field? : Option Field} {column : ColumnRef} {expr : Expr}
    (h : operandExpr value field? column = .ok expr) : expr.pieces = [] := by
  obtain ⟨-, rfl⟩ | ⟨-, parameter, rfl, -⟩ := operandExpr_cases h
  · rw [Expr.pieces]
  · rw [Expr.pieces]

theorem pieces_textExpr (column : ColumnRef) : (textExpr column).pieces = column.pieces := by
  unfold textExpr
  split <;> rw [Expr.pieces]

/-- A missing key is the last one of its path. -/
theorem pieces_missingCondition (column : ColumnRef) (isMissing : Bool) :
    (missingCondition column isMissing).pieces = column.pieces := by
  obtain ⟨qualifier?, name, path⟩ := column
  unfold missingCondition
  split
  · rw [Condition.pieces, Expr.pieces]
  · rename_i key hlast
    obtain ⟨front, rfl⟩ := List.getLast?_eq_some_iff.1 hlast
    have hkey : ColumnRef.pieces ⟨qualifier?, name, front⟩ ++ [.literal key] =
        ColumnRef.pieces ⟨qualifier?, name, front ++ [key]⟩ := by
      simp [ColumnRef.pieces]
    cases isMissing <;> simp [Condition.pieces, hkey]

/-- The literals in the condition of a test are the keys of its path. -/
theorem ColumnTest.Compiled.keyed {test : ColumnTest} {condition : Condition} {P : String → Prop}
    (h : test.Compiled condition) (path : ∀ key ∈ test.column.path, P key) :
    Keyed P condition.pieces := by
  obtain ⟨column, field?, operator, operand⟩ := test
  obtain ⟨_, h⟩ := h
  have hcolumn : Keyed P (Expr.column column).pieces := by
    rw [Expr.pieces]
    exact .column path
  have htext : Keyed P (textExpr column).pieces := by
    rw [pieces_textExpr]
    exact .column path
  have hoperand : ∀ {value : Json} {expr : Expr}, operandExpr value field? column = .ok expr →
      Keyed P expr.pieces := by
    intro value expr hexpr
    rw [pieces_operandExpr hexpr]
    exact .nil
  have bound : ∀ {left : Expr} {parameter : Parameter}, Keyed P left.pieces →
      Keyed P (left.pieces ++ (Expr.parameter parameter).pieces) := by
    intro left parameter hleft
    rw [Expr.pieces]
    exact hleft.append .nil
  cases FilterOperator.compiles_of_condition h with
  | equalNull | notEqualNull | isNull =>
    rw [Condition.pieces]
    exact hcolumn
  | compare _ _ operand =>
    rw [Condition.pieces]
    exact hcolumn.append (hoperand operand)
  | @isIn _ values operands =>
    have hvalues : ∀ value ∈ values, Keyed P value.pieces := by
      intro value hvalue
      obtain ⟨item, -, hitem⟩ := exists_mem_of_forall₂ operands hvalue
      exact hoperand hitem
    cases operands with
    | nil =>
      rw [Condition.pieces]
      exact .nil
    | cons =>
      rw [List.forall_mem_cons] at hvalues
      rw [Condition.pieces]
      exact hcolumn.append (hvalues.1.append (.listPieces hvalues.2))
  | isBetween lower upper =>
    rw [Condition.pieces]
    exact (hcolumn.append (hoperand lower)).append (hoperand upper)
  | isMissing =>
    rw [pieces_missingCondition]
    exact .column path
  | startsWith | containsText =>
    rw [Condition.pieces]
    exact bound htext
  | containsItems | containsMembers =>
    rw [Condition.pieces]
    exact bound hcolumn

mutual

/-- The keys in the path of a test are those of its column and keys of the entry. -/
theorem forall_path_of_mem_columnTests {P : String → Prop} : ∀ {field? : Option Field}
    {column : ColumnRef} {value : Json} {test : ColumnTest},
    test ∈ columnTests field? column value → (∀ key ∈ column.path, P key) →
      (∀ key ∈ value.allKeys, P key) → ∀ key ∈ test.column.path, P key
  | field?, column, .object members, test, h, path, keys => by
    rw [columnTests] at h
    rw [Json.allKeys] at keys
    exact forall_path_of_mem_memberTests h path keys
  | field?, column, .null, test, h, path, keys
  | field?, column, .bool _, test, h, path, keys
  | field?, column, .number _, test, h, path, keys
  | field?, column, .string _, test, h, path, keys
  | field?, column, .array _, test, h, path, keys => by
    simp only [columnTests, List.mem_singleton] at h
    rwa [h]

/-- The keys in the path of a test are those of its column and keys of the members. -/
theorem forall_path_of_mem_memberTests {P : String → Prop} : ∀ {field? : Option Field}
    {column : ColumnRef} {members : List (String × Json)} {test : ColumnTest},
    test ∈ memberTests field? column members → (∀ key ∈ column.path, P key) →
      (∀ key ∈ Json.memberKeys members, P key) → ∀ key ∈ test.column.path, P key
  | field?, column, [], test, h, path, keys => by simp [memberTests] at h
  | field?, column, (key, value) :: rest, test, h, path, keys => by
    rw [Json.memberKeys, List.forall_mem_append, List.forall_mem_cons] at keys
    rw [memberTests, List.mem_append] at h
    have hinner : ∀ inner ∈ (column.key key).path, P inner := by
      rw [ColumnRef.key, List.forall_mem_append, List.forall_mem_singleton]
      exact ⟨path, keys.1.1⟩
    rcases h with hfirst | hrest
    · split at hfirst
      · exact forall_path_of_mem_columnTests hfirst hinner keys.1.2
      · split at hfirst
        · rwa [List.mem_singleton.1 hfirst]
        · exact forall_path_of_mem_columnTests hfirst hinner keys.1.2
    · exact forall_path_of_mem_memberTests hrest path keys.2

end

/-- The literals in the conditions of a column are keys of its entry. -/
theorem Table.columnConditions_keyed {table : Table} {scope? : Option String}
    {path key : String} {value : Json} {conditions : List Condition} {P : String → Prop}
    (h : table.columnConditions scope? path key value = .ok conditions)
    (keys : ∀ key ∈ value.allKeys, P key) : Keyed P (Condition.listPieces conditions) := by
  refine .conditions fun condition hcondition => ?_
  obtain ⟨test, htest, hcompiled⟩ := exists_mem_of_forall₂ (columnConditions_compiled h) hcondition
  exact hcompiled.keyed (forall_path_of_mem_columnTests htest (List.forall_mem_nil _) keys)

/-! ## Filters -/

/-- The keys inside a part of a filter. -/
def FilterTask.allKeys : FilterTask → List String
  | .members entries => Json.memberKeys entries
  | .entry _ _ value => value.allKeys
  | .items values => Json.itemKeys values

section

variable {P : String → Prop}

theorem Sql.Keyed.ofEntries {conditions : List Condition}
    (h : Keyed P (Condition.listPieces conditions)) :
    Keyed P (Condition.ofEntries conditions).pieces := by
  rw [← Condition.clausePieces_all] at h
  rw [Condition.ofEntries]
  cases hall : Condition.all conditions with
  | none =>
    rw [Option.getD_none, Condition.pieces, Condition.listPieces]
    exact .nil
  | some condition =>
    rw [hall] at h
    exact h

theorem Sql.Keyed.ofGroup {conditions : List Condition} {isDisjunction : Bool}
    (h : Keyed P (Condition.listPieces conditions)) :
    Keyed P (Condition.listPieces (Condition.ofGroup isDisjunction conditions)) := by
  cases isDisjunction with
  | false => exact h
  | true =>
    rw [Condition.ofGroup, if_pos rfl]
    refine .conditions (List.forall_mem_singleton.2 ?_)
    rwa [Condition.pieces]

/-- A join compares two columns. -/
theorem Sql.Keyed.join (relation : Relation) (inner outer : String) :
    Keyed P (relation.join inner outer).pieces := by
  rw [Relation.join, Condition.equal, Condition.pieces, Expr.pieces, Expr.pieces]
  exact (Keyed.plainColumn _ _).append (Keyed.plainColumn _ _)

theorem Sql.Keyed.joinedWith (relation : Relation) (inner outer : String)
    {extra? : Option Condition} (h : Keyed P (Condition.clausePieces extra?)) :
    Keyed P ((relation.join inner outer).joinedWith extra?).pieces := by
  cases extra? with
  | none => exact .join relation inner outer
  | some condition =>
    rw [Condition.joinedWith, Condition.pieces_andAlso]
    exact (Keyed.join relation inner outer).append h

/-- The condition that a related row exists has the literals of the condition on this row. -/
theorem Sql.Keyed.relatedRow {relation : Relation} {inner : String} {condition : Condition}
    (negated : Bool) (h : Keyed P condition.pieces) :
    Keyed P (Condition.relatedRow relation inner condition negated).pieces := by
  rw [Condition.relatedRow, Condition.pieces]
  refine .select (.columns (List.forall_mem_singleton.2 ?_)) ?_ h .nil
  · rw [Projection.plain, Expr.pieces]
    exact .raw (by decide)
  · exact (Keyed.name _).append (.names _)

end

namespace FilterContext

variable {context : FilterContext} {table : Table} {scope? : Option String} {P : String → Prop}

/-- The literals in the conditions of a part of a filter are keys of this part. -/
theorem Derives.keyed {task : FilterTask} {conditions : List Condition} {n m : Nat}
    (h : context.Derives table scope? task n conditions m)
    (keys : ∀ key ∈ task.allKeys, P key) : Keyed P (Condition.listPieces conditions) := by
  have hsingle : ∀ {condition : Condition}, Keyed P condition.pieces →
      Keyed P (Condition.listPieces [condition]) := fun hcondition =>
    .conditions (List.forall_mem_singleton.2 hcondition)
  induction h with
  | nil | noItems => exact .nil
  | cons _ _ ihHead ihTail =>
    rw [FilterTask.allKeys, Json.memberKeys, List.forall_mem_append, List.forall_mem_cons] at keys
    rw [Condition.listPieces_eq_flatMap, List.flatMap_append, ← Condition.listPieces_eq_flatMap,
      ← Condition.listPieces_eq_flatMap]
    exact (ihHead keys.1.2).append (ihTail keys.2)
  | group _ ih => exact (ih keys).ofGroup
  | single _ ih => exact (hsingle (ih keys).ofEntries).ofGroup
  | negation _ ih =>
    refine hsingle ?_
    rw [Condition.pieces]
    exact (ih keys).ofEntries
  | unrelated => exact hsingle (.relatedRow true (.join _ _ _))
  | related _ _ ih =>
    refine hsingle (.relatedRow false (.joinedWith _ _ _ ?_))
    rw [Condition.clausePieces_all]
    exact ih keys
  | column predicates => exact Table.columnConditions_keyed predicates keys
  | item _ _ ihHead ihTail =>
    rw [FilterTask.allKeys, Json.itemKeys, List.forall_mem_append] at keys
    rw [Condition.listPieces]
    exact (ihHead keys.1).ofEntries.append (ihTail keys.2)

/-- The literals in the condition of a filter are keys of the filter. -/
theorem keyed_condition {filter : Json} {path : String} {condition? : Option Condition} {n m : Nat}
    (compiled : Returns (context.condition filter table scope? path) n condition? m)
    (keys : ∀ key ∈ filter.allKeys, P key) : Keyed P (Condition.clausePieces condition?) := by
  obtain ⟨members, conditions, rfl, rfl, derives⟩ := derives_of_condition compiled
  rw [Condition.clausePieces_all]
  rw [Json.allKeys] at keys
  exact derives.keyed keys

end FilterContext

end RelationalQuery
