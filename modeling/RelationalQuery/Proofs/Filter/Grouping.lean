import RelationalQuery.Proofs.Filter.Column
import RelationalQuery.Proofs.Filter.Derivation
import RelationalQuery.Proofs.Sql.Grouping

/-!
# Grouping of compiled filters

A compiled filter is built of connectives over tests of columns and of related rows, and so is a
join.  So the text of a compiled filter is read back with the grouping of the filter, whatever its
groups nest into.

Main results:

- `FilterContext.Derives.isFilter`: the conditions of a derivation are conditions of filters.
- `Relation.isFilter_join`: so are joins.
- `FilterContext.reading_of_condition`: the text of a compiled filter is read back as an equivalent
  tree.
-/

namespace RelationalQuery

open Sql (Condition Reading Tree)

namespace Sql

/-! ## Parts of filters -/

/-- A bound value or a literal is an operand. -/
theorem Expr.IsValue.isOperand {expr : Expr} (h : expr.IsValue) : expr.IsOperand := by
  cases h with
  | null => exact .null
  | parameter => exact .parameter

/-- So is the text of a column. -/
theorem isOperand_textExpr (column : ColumnRef) : (textExpr column).IsOperand := by
  unfold textExpr
  split
  · exact .column
  · exact .columnText

namespace Condition

/-- A test of a column is a condition of filters. -/
theorem IsPredicate.isFilter {qualifier? : Option String} {name : String} {condition : Condition}
    (h : condition.IsPredicate qualifier? name) : condition.IsFilter := by
  cases h with
  | compare value => exact .compare .column value.isOperand
  | nullCheck => exact .nullCheck .column
  | inList members => exact .inList .column fun value hvalue => (members value hvalue).isOperand
  | between lower upper => exact .between .column lower.isOperand upper.isOperand
  | startsWith => exact .startsWith (isOperand_textExpr _) .parameter
  | containsText => exact .containsText (isOperand_textExpr _) .parameter
  | hasKey => exact .hasKey
  | lacksKey => exact .not .hasKey

namespace IsFilter

variable {condition left right : Condition} {conditions : List Condition}

/-- The parts of a condition of filters are conditions of filters. -/
theorem parts (h : condition.IsFilter) : ∀ part ∈ condition.parts, part.IsFilter := by
  cases h with
  | and conditions => exact conditions
  | or conditions => exact List.forall_mem_singleton.2 (.or conditions)
  | not inner => exact List.forall_mem_singleton.2 (.not inner)
  | compare first second => exact List.forall_mem_singleton.2 (.compare first second)
  | nullCheck tested => exact List.forall_mem_singleton.2 (.nullCheck tested)
  | inList tested members => exact List.forall_mem_singleton.2 (.inList tested members)
  | between tested lower upper =>
    exact List.forall_mem_singleton.2 (.between tested lower upper)
  | startsWith tested start => exact List.forall_mem_singleton.2 (.startsWith tested start)
  | containsText tested part => exact List.forall_mem_singleton.2 (.containsText tested part)
  | hasKey => exact List.forall_mem_singleton.2 .hasKey
  | «exists» inner => exact List.forall_mem_singleton.2 (.exists inner)

/-- The conjunction of two conditions of filters is one. -/
theorem andAlso (hleft : left.IsFilter) (hright : right.IsFilter) :
    (left.andAlso right).IsFilter :=
  .and (List.forall_mem_append.2 ⟨hleft.parts, hright.parts⟩)

/-- Joined conditions of filters are conditions of filters. -/
theorem of_all (h : ∀ condition ∈ conditions, condition.IsFilter) :
    ∀ condition ∈ Condition.all conditions, condition.IsFilter := by
  match conditions, h with
  | [], _ => simp [Condition.all]
  | [condition], h => simpa [Condition.all] using h
  | first :: second :: rest, h =>
    have hall : Condition.all (first :: second :: rest) = some (.and (first :: second :: rest)) :=
      rfl
    rw [hall]
    rintro _ ⟨⟩
    exact .and h

/-- So is the condition of the entries of a filter. -/
theorem ofEntries (h : ∀ condition ∈ conditions, condition.IsFilter) :
    (Condition.ofEntries conditions).IsFilter := by
  unfold Condition.ofEntries
  cases hall : Condition.all conditions with
  | none => exact .and (List.forall_mem_nil _)
  | some condition => exact of_all h condition hall

/-- So is the condition of a group. -/
theorem ofGroup (isDisjunction : Bool) (h : ∀ condition ∈ conditions, condition.IsFilter) :
    ∀ condition ∈ Condition.ofGroup isDisjunction conditions, condition.IsFilter := by
  cases isDisjunction with
  | false => exact h
  | true => exact List.forall_mem_singleton.2 (.or h)

/-- So is a condition that is joined with another one. -/
theorem joinedWith {extra? : Option Condition} (hleft : left.IsFilter)
    (h : ∀ condition ∈ extra?, condition.IsFilter) : (left.joinedWith extra?).IsFilter := by
  cases extra? with
  | none => exact hleft
  | some extra => exact hleft.andAlso (h extra rfl)

end IsFilter

end Condition

end Sql

/-- The join of a relation is a condition of filters. -/
theorem Relation.isFilter_join (relation : Relation) (inner outer : String) :
    (relation.join inner outer).IsFilter :=
  .compare .column .column

/-! ## Compiled filters -/

namespace FilterContext

variable {context : FilterContext} {table : Table} {scope? : Option String}

/-- The conditions of a derivation are conditions of filters. -/
theorem Derives.isFilter {task : FilterTask} {conditions : List Condition} {n m : Nat}
    (h : context.Derives table scope? task n conditions m) :
    ∀ condition ∈ conditions, condition.IsFilter := by
  induction h with
  | nil | noItems => exact List.forall_mem_nil _
  | cons _ _ head tail => exact List.forall_mem_append.2 ⟨head, tail⟩
  | group _ ih => exact .ofGroup _ ih
  | single _ ih => exact .ofGroup _ (List.forall_mem_singleton.2 (.ofEntries ih))
  | negation _ ih => exact List.forall_mem_singleton.2 (.not (.ofEntries ih))
  | unrelated => exact List.forall_mem_singleton.2 (.exists (Relation.isFilter_join _ _ _))
  | related _ _ ih =>
    exact List.forall_mem_singleton.2
      (.exists ((Relation.isFilter_join _ _ _).joinedWith (.of_all ih)))
  | column predicates =>
    exact fun condition hcondition =>
      ((Table.columnConditions_isPredicate predicates).2 condition hcondition).isFilter
  | item _ _ head tail => exact List.forall_mem_cons.2 ⟨.ofEntries head, tail⟩

/-- A compiled filter is a condition of filters. -/
theorem isFilter_of_condition {filter : Json} {path : String} {condition : Condition} {n m : Nat}
    (h : Returns (context.condition filter table scope? path) n (some condition) m) :
    condition.IsFilter := by
  obtain ⟨members, conditions, -, hcondition, derives⟩ := derives_of_condition h
  exact Condition.IsFilter.of_all derives.isFilter condition hcondition.symm

/-- The text of a compiled filter is read back with the truth value of its condition under every
assignment to the leaves. -/
theorem reading_of_condition {filter : Json} {path : String} {condition : Condition} {n m : Nat}
    {style : PlaceholderStyle} {compiled : CompiledQuery}
    (h : Returns (context.condition filter table scope? path) n (some condition) m)
    (built : (Tree.condition condition).build style = .ok compiled) :
    ∃ reading, Reading.of? style compiled = some reading ∧
      ∀ assign, reading.truth assign = condition.truthUnder assign :=
  (isFilter_of_condition h).exists_reading built

end FilterContext

end RelationalQuery
