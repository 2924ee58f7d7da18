import RelationalQuery.Filter.Basic
import RelationalQuery.Proofs.Coherence
import RelationalQuery.Proofs.Filter.Acceptance
import RelationalQuery.Proofs.Sql.Qualification

/-!
# Filters with and without a scope

Selections name the table in the conditions of their filters; deletes, counts and updates do not.
This is the only difference: with the scope of the table a filter is compiled to the qualified form
of what it is compiled to without one, and it fails in the same way.  Inside a subquery both name
the table around it, since a relation without a scope is joined to the table itself.

Each function of the compiler is followed on its own, so every result here says that compiling and
qualifying commute.

Main results:

- `predicates_qualify`: the predicates of a qualified column are the qualified predicates.
- `FilterContext.memberConditions_qualify`: the same of the entries of a filter, with all numbers
  that are handed out.
- `FilterContext.conditionOn_qualify`: what a filter gives with and without the scope of its table.
-/

namespace RelationalQuery

open Sql (ColumnRef Condition Database Expr Interpretation Item Token)

/-! ## Columns -/

/-- Results that are changed one by one are changed as a list. -/
theorem mapM_map_result {ε α β γ : Type} (f : α → Except ε β) (g : β → γ) (items : List α) :
    (items.mapM fun item => g <$> f item) = List.map g <$> items.mapM f := by
  induction items with
  | nil => rfl
  | cons item rest ih =>
    simp only [List.mapM_cons, ih, bind_map_left, map_bind, map_pure, List.map_cons]

section

variable (name : String) (column : ColumnRef)

/-- An operand reads no column. -/
theorem operandExpr_qualify (value : Json) (field? : Option Field) :
    operandExpr value field? (column.qualify name) =
      Expr.qualify name <$> operandExpr value field? column := by
  unfold operandExpr
  rw [ColumnRef.path_qualify]
  split
  · rfl
  · split
    · rw [Functor.map_map]
      rfl
    · rfl

/-- The text of a qualified column is the qualified text of the column. -/
theorem textExpr_qualify : textExpr (column.qualify name) = (textExpr column).qualify name := by
  unfold textExpr
  rw [ColumnRef.path_qualify]
  split <;> rfl

/-- A check for a missing value of a qualified column is qualified. -/
theorem missingCondition_qualify (isMissing : Bool) :
    missingCondition (column.qualify name) isMissing =
      (missingCondition column isMissing).qualify name := by
  unfold missingCondition
  rw [ColumnRef.path_qualify]
  cases column.path.getLast? with
  | none => rfl
  | some key => cases isMissing <;> rfl

/-- The condition of an operator on a qualified column is the qualified condition. -/
theorem FilterOperator.condition_qualify (operator : FilterOperator) (value : Json)
    (field? : Option Field) (path : String) :
    operator.condition value field? (column.qualify name) path =
      Condition.qualify name <$> operator.condition value field? column path := by
  have compared : ∀ comparison : Sql.Comparison,
      Condition.compare (.column (column.qualify name)) comparison <$>
          operandExpr value field? (column.qualify name) =
        Condition.qualify name <$>
          (Condition.compare (.column column) comparison <$> operandExpr value field? column) := by
    intro comparison
    rw [operandExpr_qualify, Functor.map_map, Functor.map_map]
    rfl
  unfold condition
  cases operator with
  | equal | notEqual =>
    simp only
    split
    · rfl
    · exact compared _
  | greater | greaterOrEqual | less | lessOrEqual => exact compared _
  | isIn =>
    simp only
    split
    · simp only [operandExpr_qualify, mapM_map_result, Functor.map_map]
      rfl
    · rfl
  | isBetween =>
    simp only
    split
    · simp only [operandExpr_qualify, bind_map_left, map_bind, map_pure]
      rfl
    · rfl
  | isNull =>
    simp only [Functor.map_map]
    rfl
  | isMissing =>
    rw [Functor.map_map]
    simp only [← missingCondition_qualify]
  | startsWith | contains =>
    simp only [textExpr_qualify]
    split <;> rfl

end

section

variable (name : String)

mutual

/-- The predicates of a qualified column are the qualified predicates. -/
theorem predicates_qualify : ∀ (field? : Option Field) (column : ColumnRef) (path : String)
    (value : Json), predicates field? (column.qualify name) path value =
      List.map (Condition.qualify name) <$> predicates field? column path value
  | field?, column, path, .null => by
    rw [predicates, predicates]
    rfl
  | field?, column, path, .object members => by
    rw [predicates, predicates]
    exact memberPredicates_qualify field? column path members
  | field?, column, path, .array items => by
    rw [predicates, predicates]
    rw [ColumnRef.path_qualify]
    split
    · simp only [operandExpr_qualify, bind_map_left, map_bind, map_pure]
      rfl
    · rfl
  | field?, column, path, .bool _
  | field?, column, path, .number _
  | field?, column, path, .string _ => by
    simp only [predicates, operandExpr_qualify, bind_map_left, map_bind, map_pure]
    rfl

/-- The predicates of the members of an entry are qualified one by one. -/
theorem memberPredicates_qualify : ∀ (field? : Option Field) (column : ColumnRef) (path : String)
    (members : List (String × Json)),
    memberPredicates field? (column.qualify name) path members =
      List.map (Condition.qualify name) <$> memberPredicates field? column path members
  | field?, column, path, [] => by
    rw [memberPredicates, memberPredicates]
    rfl
  | field?, column, path, (key, value) :: rest => by
    rw [memberPredicates, memberPredicates]
    have hrest := memberPredicates_qualify field? column path rest
    cases PredicateKey.ofKey field? key with
    | nested child? =>
      have hinside : (column.qualify name).key key = (column.key key).qualify name := rfl
      have hfirst := predicates_qualify child? (column.key key) (joinPath path key) value
      simp only [hinside, hfirst, hrest, bind_map_left, map_bind, map_pure, List.map_append]
    | operator operator =>
      simp only [FilterOperator.condition_qualify, hrest, pure_bind, bind_map_left, map_bind,
        map_pure, List.map_append, List.map_cons, List.map_nil]
    | unexpected | unknownOperator => rfl

end

end

/-- The conditions of a column in the scope of its table are the qualified ones. -/
theorem Table.columnConditions_qualify (table : Table) (name path key : String) (value : Json) :
    table.columnConditions (some name) path key value =
      List.map (Condition.qualify name) <$> table.columnConditions none path key value := by
  have hcolumn : (⟨some name, key, []⟩ : ColumnRef) = (⟨none, key, []⟩ : ColumnRef).qualify name :=
    rfl
  simp only [columnConditions, hcolumn, predicates_qualify, map_bind]

/-! ## Filters -/

namespace Sql.Condition

variable (name : String)

/-- The condition of entries is qualified by qualifying each of them. -/
theorem qualify_ofEntries (conditions : List Condition) :
    (ofEntries conditions).qualify name = ofEntries (conditions.map (qualify name)) := by
  match conditions with
  | [] => rfl
  | [condition] => rfl
  | first :: second :: rest =>
    change Condition.and (qualifyList name (first :: second :: rest)) = _
    rw [qualifyList_eq_map]
    rfl

/-- So are conditions that are joined. -/
theorem qualify_all (conditions : List Condition) :
    (all conditions).map (qualify name) = all (conditions.map (qualify name)) := by
  match conditions with
  | [] => rfl
  | [condition] => rfl
  | first :: second :: rest =>
    change some (Condition.and (qualifyList name (first :: second :: rest))) = _
    rw [qualifyList_eq_map]
    rfl

/-- So is the condition of a group. -/
theorem qualify_ofGroup (isDisjunction : Bool) (conditions : List Condition) :
    (ofGroup isDisjunction conditions).map (qualify name) =
      ofGroup isDisjunction (conditions.map (qualify name)) := by
  cases isDisjunction with
  | false => rfl
  | true =>
    change [Condition.or (qualifyList name conditions)] = _
    rw [qualifyList_eq_map]
    rfl

end Sql.Condition

namespace FilterContext

variable (context : FilterContext) (table : Table)

mutual

/-- The entries of a filter in the scope of its table have the qualified conditions. -/
theorem memberConditions_qualify : ∀ (path : String) (members : List (String × Json)),
    context.memberConditions table (some table.name) path members =
      List.map (Condition.qualify table.name) <$>
        context.memberConditions table none path members
  | path, [] => by
    simp only [memberConditions, map_pure, List.map_nil]
  | path, (key, value) :: rest => by
    simp only [memberConditions, entryConditions_qualify path key _ value,
      memberConditions_qualify path rest, bind_map_left, map_bind, map_pure, List.map_append]

/-- An entry of a filter in the scope of its table has the qualified conditions. -/
theorem entryConditions_qualify : ∀ (path key : String) (kind : FilterEntry) (value : Json),
    context.entryConditions table (some table.name) path key kind value =
      List.map (Condition.qualify table.name) <$>
        context.entryConditions table none path key kind value
  | path, key, .group isDisjunction, .array items => by
    simp only [entryConditions, itemConditions_qualify _ 0 items, bind_map_left, map_bind, map_pure,
      Condition.qualify_ofGroup]
  | path, key, .group isDisjunction, .object members => by
    simp only [entryConditions, memberConditions_qualify _ members, bind_map_left, map_bind,
      map_pure, Condition.qualify_ofGroup, List.map_cons, List.map_nil,
      Condition.qualify_ofEntries]
  | path, key, .negation, .object members => by
    simp only [entryConditions, memberConditions_qualify _ members, bind_map_left, map_bind,
      map_pure, List.map_cons, List.map_nil, Condition.qualify, Condition.qualify_ofEntries]
  -- The subquery of a relation is joined to the table in both forms and has a scope of its own.
  | path, key, .relation relation, .null => by
    simp only [entryConditions, map_bind, map_pure, Option.getD_some, Option.getD_none]
    rfl
  | path, key, .relation relation, .object members => by
    simp only [entryConditions, map_bind, map_pure, Option.getD_some, Option.getD_none]
    rfl
  | path, key, .column, value => by
    simp only [entryConditions, Table.columnConditions_qualify]
    cases table.columnConditions none path key value <;> rfl
  | path, key, .group isDisjunction, .null
  | path, key, .group isDisjunction, .bool _
  | path, key, .group isDisjunction, .number _
  | path, key, .group isDisjunction, .string _
  | path, key, .negation, .null
  | path, key, .negation, .bool _
  | path, key, .negation, .number _
  | path, key, .negation, .string _
  | path, key, .negation, .array _ => by
    simp only [entryConditions]
    rfl
  | path, key, .relation relation, .bool _
  | path, key, .relation relation, .number _
  | path, key, .relation relation, .string _
  | path, key, .relation relation, .array _ => by
    simp only [entryConditions, map_bind]
    rfl

/-- The filters of a group in the scope of their table have the qualified conditions. -/
theorem itemConditions_qualify : ∀ (path : String) (index : Nat) (items : List Json),
    context.itemConditions table (some table.name) path index items =
      List.map (Condition.qualify table.name) <$>
        context.itemConditions table none path index items
  | path, index, [] => by
    simp only [itemConditions, map_pure, List.map_nil]
  | path, index, .object members :: rest => by
    simp only [itemConditions, memberConditions_qualify _ members,
      itemConditions_qualify path (index + 1) rest, bind_map_left, map_bind, map_pure,
      List.map_cons, Condition.qualify_ofEntries]
  | path, index, .null :: rest
  | path, index, .bool _ :: rest
  | path, index, .number _ :: rest
  | path, index, .string _ :: rest
  | path, index, .array _ :: rest => by
    simp only [itemConditions]
    rfl

end

/-- A filter in the scope of its table has the qualified condition. -/
theorem condition_qualify (filter : Json) (path : String) :
    context.condition filter table (some table.name) path =
      Option.map (Condition.qualify table.name) <$> context.condition filter table none path := by
  cases filter with
  | object members =>
    simp only [condition, memberConditions_qualify, bind_map_left, map_bind, map_pure,
      Condition.qualify_all]
  | null | bool _ | number _ | string _ | array _ =>
    simp only [condition]
    rfl

/-- A filter is compiled in the same way with and without the scope of its table: it fails with the
same error, has no condition in both forms, or has a condition in both.  All numbers that are handed
out are the same.  The one condition is the other one with its columns qualified; it binds the same
parameters in the same order, and has the same truth value on every row of the table. -/
theorem conditionOn_qualify (filter : Json) (name : String) (n : Nat) :
    (∃ error next, outcome (context.conditionOn filter name none) n = (.error error, next) ∧
      outcome (context.conditionOn filter name (some name)) n = (.error error, next)) ∨
    (∃ next, Returns (context.conditionOn filter name none) n none next ∧
      Returns (context.conditionOn filter name (some name)) n none next) ∨
    ∃ condition next, Returns (context.conditionOn filter name none) n (some condition) next ∧
      Returns (context.conditionOn filter name (some name)) n (some (condition.qualify name)) next ∧
      (condition.qualify name).parameters = condition.parameters ∧
      ∀ (V : Type) (I : Interpretation V) (db : Database V) (column? : String → Option V),
        (condition.qualify name).eval I db [[⟨name, column?⟩]] =
          condition.eval I db [[⟨name, column?⟩]] := by
  have hsame : context.conditionOn filter name (some name) =
      Option.map (Condition.qualify name) <$> context.conditionOn filter name none := by
    unfold conditionOn
    cases htable : context.repository.table name with
    | error error => rfl
    | ok table =>
      obtain rfl := Repository.name_of_table? (Repository.table_eq_ok_iff.1 htable)
      exact context.condition_qualify table filter table.name
  rw [hsame]
  rcases hplain : outcome (context.conditionOn filter name none) n with ⟨error | condition?, next⟩
  · left
    refine ⟨error, next, rfl, ?_⟩
    rw [← bind_pure_comp, outcome_bind, hplain]
  · right
    cases condition? with
    | none =>
      left
      exact ⟨next, hplain, returns_map.2 ⟨none, hplain, rfl⟩⟩
    | some condition =>
      right
      refine ⟨condition, next, hplain, returns_map.2 ⟨some condition, hplain, rfl⟩,
        condition.parameters_qualify name, ?_⟩
      intro V I db column?
      let item : Item V := ⟨name, column?⟩
      have hsame : (condition.qualify item.name).eval I db [[item]] = condition.eval I db [[item]] :=
        condition.eval_qualify
      exact hsame

end FilterContext

end RelationalQuery
