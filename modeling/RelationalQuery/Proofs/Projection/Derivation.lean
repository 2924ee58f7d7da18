import RelationalQuery.Projection.Basic
import RelationalQuery.Proofs.Filter.Derivation

/-!
# Derivations of projections

The named expressions of a select and an include tree come with a derivation: which rule gave each
of them, and how many aliases of both kinds were handed out before and after.

Main definitions:

- `ProjectionTask` is a part of two trees that is compiled over a table.
- `ProjectionContext.RelatedFilter` relates the filter of an include entry and its condition.
- `ProjectionContext.Derives` relates a part, the aliases before it, its named expressions and the
  aliases behind it.

Main results:

- `ProjectionContext.Derives.of_fields`: compiled trees have a derivation.
- `ProjectionContext.Derives.projections_le`: aliases are only ever handed out.
-/

namespace RelationalQuery

open Sql (Condition Expr OrderTerm)

/-- A part of a select and an include tree: both trees, the entries of a select tree, the entries of
an include tree without those that are named, or a relation with a select tree and an entry. -/
inductive ProjectionTask where
  | fields (select? include? : Option Json)
  | selected (includes members : Members)
  | included (includes : Members) (named : List String)
  | relation (key : String) (relation : Relation) (selection? included? : Option Json)

/-- A relation that is a part of its own belongs to the table. -/
def ProjectionTask.Belongs (table : Table) : ProjectionTask → Prop
  | .relation _ r _ _ => r ∈ table.relations
  | _ => True

namespace ProjectionContext

/-- The filter of related rows that may be absent has a condition that may be absent; the two
numbers count the aliases of filters before and behind it. -/
def RelatedFilter (context : ProjectionContext) (related : Table) (inner : String)
    (filter? : Option Json) (n : Nat) (extra? : Option Condition) (m : Nat) : Prop :=
  match filter? with
  | none => extra? = none ∧ m = n
  | some filter =>
    ∃ path, Returns (context.filters.condition filter related (some inner) path) n extra? m

section

variable {context : ProjectionContext} {related : Table} {inner : String} {filter? : Option Json}
  {n : Nat}

theorem RelatedFilter.of_none (h : filter? = none) :
    context.RelatedFilter related inner filter? n none n := by
  subst h
  exact ⟨rfl, rfl⟩

theorem RelatedFilter.of_some {filter : Json} {path : String} {extra? : Option Condition} {m : Nat}
    (h : filter? = some filter)
    (compiled : Returns (context.filters.condition filter related (some inner) path) n extra? m) :
    context.RelatedFilter related inner filter? n extra? m := by
  subst h
  exact ⟨path, compiled⟩

end

/-- The query for the rows of a relation of the rows of an outer scope. -/
def relatedQuery (relation : Relation) (options : IncludeOptions) (object : List (String × Expr))
    (inner outer : String) (extra? : Option Condition) (order : List OrderTerm) : Sql.Select :=
  relatedSelect relation.shape.isSingular options (.object object)
    (.aliased relation.relatedTable inner)
    (some ((relation.join inner outer).joinedWith extra?)) order

/-- A part of two trees over the rows of a scope has named expressions. -/
inductive Derives (context : ProjectionContext) :
    Table → String → ProjectionTask → Aliases → List (String × Expr) → Aliases → Prop
  | all {table : Table} {scope : String} {include? : Option Json}
      {included : List (String × Expr)} {a b : Aliases}
      (others : Derives context table scope (.included (Json.membersOf include?) []) a included b) :
      Derives context table scope (.fields none include?) a
        (allColumnFields table scope ++ included) b
  | tree {table : Table} {scope : String} {members : Members} {include? : Option Json}
      {selected included : List (String × Expr)} {a b c : Aliases}
      (entries : Derives context table scope (.selected (Json.membersOf include?) members) a
        selected b)
      (others : Derives context table scope
        (.included (Json.membersOf include?) (Members.keys members)) b included c) :
      Derives context table scope (.fields (some (.object members)) include?) a
        (selected ++ included) c
  | nothingSelected {table : Table} {scope : String} {includes : Members} {a : Aliases} :
      Derives context table scope (.selected includes []) a [] a
  | hidden {table : Table} {scope key : String} {relation : Relation} {includes rest : Members}
      {others : List (String × Expr)} {a b : Aliases} (known : table.relation? key = some relation)
      (tail : Derives context table scope (.selected includes rest) a others b) :
      Derives context table scope (.selected includes ((key, .bool false) :: rest)) a others b
  | selectedRelation {table : Table} {scope key : String} {relation : Relation} {value : Json}
      {includes rest : Members} {first others : List (String × Expr)} {a b c : Aliases}
      (known : table.relation? key = some relation) (shown : value ≠ .bool false)
      (head : Derives context table scope
        (.relation key relation (selectTree? value) (includedAs? includes key)) a first b)
      (tail : Derives context table scope (.selected includes rest) b others c) :
      Derives context table scope (.selected includes ((key, value) :: rest)) a (first ++ others) c
  | selectedColumn {table : Table} {scope path key : String} {value : Json}
      {includes rest : Members} {first others : List (String × Expr)} {a b : Aliases}
      (unknown : table.relation? key = none)
      (head : columnFields table scope path key value = .ok first)
      (tail : Derives context table scope (.selected includes rest) a others b) :
      Derives context table scope (.selected includes ((key, value) :: rest)) a (first ++ others) b
  | nothingIncluded {table : Table} {scope : String} {named : List String} {a : Aliases} :
      Derives context table scope (.included [] named) a [] a
  | skipped {table : Table} {scope name : String} {entry : Json} {rest : Members}
      {named : List String} {others : List (String × Expr)} {a b : Aliases}
      (hidden : entry = .bool false ∨ named.contains name = true)
      (tail : Derives context table scope (.included rest named) a others b) :
      Derives context table scope (.included ((name, entry) :: rest) named) a others b
  | includedRelation {table : Table} {scope name : String} {relation : Relation} {entry : Json}
      {rest : Members} {named : List String} {first others : List (String × Expr)}
      {a b c : Aliases} (shown : ¬ (entry = .bool false ∨ named.contains name = true))
      (known : table.relation? name = some relation)
      (head : Derives context table scope (.relation name relation none (some entry)) a first b)
      (tail : Derives context table scope (.included rest named) b others c) :
      Derives context table scope (.included ((name, entry) :: rest) named) a (first ++ others) c
  | relation {table related : Table} {scope key path : String} {relation : Relation}
      {selection? included? : Option Json} {object : List (String × Expr)}
      {extra? : Option Condition} {order : List OrderTerm} {a b : Aliases} {m : Nat}
      (known : context.repository.table? relation.relatedTable = some related)
      (inner : Derives context related (numberedName context.config.projectionStem a.projections)
        (.fields (selection? <|> (IncludeOptions.ofEntry included?).select?)
          (IncludeOptions.ofEntry included?).include?)
        { a with projections := a.projections + 1 } object b)
      (filter : context.RelatedFilter related
        (numberedName context.config.projectionStem a.projections)
        (IncludeOptions.ofEntry included?).filter? b.filters extra? m)
      (ordered : orderTerms? (IncludeOptions.ofEntry included?).order? related
        (some (numberedName context.config.projectionStem a.projections)) path = .ok order) :
      Derives context table scope (.relation key relation selection? included?) a
        [(key, .subquery (relatedQuery relation (IncludeOptions.ofEntry included?) object
          (numberedName context.config.projectionStem a.projections) scope extra? order))]
        { b with filters := m }

namespace Derives

variable {context : ProjectionContext} {table : Table} {scope : String}

/-- Aliases of projections are only ever handed out. -/
theorem projections_le {task : ProjectionTask} {fields : List (String × Expr)} {a b : Aliases}
    (h : context.Derives table scope task a fields b) : a.projections ≤ b.projections := by
  induction h with
  | all _ ih | hidden _ _ ih | selectedColumn _ _ _ ih | skipped _ _ ih => exact ih
  | tree _ _ ihEntries ihOthers => exact Nat.le_trans ihEntries ihOthers
  | nothingSelected | nothingIncluded => exact Nat.le_refl _
  | selectedRelation _ _ _ _ ihHead ihTail | includedRelation _ _ _ _ ihHead ihTail =>
    exact Nat.le_trans ihHead ihTail
  | relation _ _ _ _ ih => exact Nat.le_of_succ_le ih

mutual

/-- Compiled trees have a derivation. -/
theorem of_fields : ∀ {select? include? : Option Json} {table : Table} {scope path : String}
    {fields : List (String × Expr)} {a b : Aliases},
    Returns (context.fields select? include? table scope path) a fields b →
      context.Derives table scope (.fields select? include?) a fields b
  | none, include?, table, scope, path, fields, a, b, h => by
    rw [ProjectionContext.fields] at h
    simp only [returns_bind, returns_pure, returns_monadLift] at h
    obtain ⟨_, _, ⟨-, rfl⟩, included, _, hincluded, rfl, rfl⟩ := h
    exact .all (of_includedFields hincluded)
  | some (.object members), include?, table, scope, path, fields, a, b, h => by
    rw [ProjectionContext.fields] at h
    simp only [returns_bind, returns_pure, returns_monadLift] at h
    obtain ⟨_, _, ⟨-, rfl⟩, selected, _, hselected, included, _, hincluded, rfl, rfl⟩ := h
    exact .tree (of_selectedFields hselected) (of_includedFields hincluded)
  | some .null, include?, table, scope, path, fields, a, b, h
  | some (.bool _), include?, table, scope, path, fields, a, b, h
  | some (.number _), include?, table, scope, path, fields, a, b, h
  | some (.string _), include?, table, scope, path, fields, a, b, h
  | some (.array _), include?, table, scope, path, fields, a, b, h => by
    simp [ProjectionContext.fields] at h
termination_by select? include? => (Json.sizeOrZero select? + Json.sizeOrZero include?, 1)
decreasing_by
  all_goals
    have := Json.membersSize_membersOf_le include?
    simp only [Json.sizeOrZero_none, Json.sizeOrZero_some, Json.size, Prod.lex_def]
    omega

/-- Compiled entries of a select tree have a derivation. -/
theorem of_selectedFields : ∀ {includes members : Members} {table : Table} {scope path : String}
    {fields : List (String × Expr)} {a b : Aliases},
    Returns (context.selectedFields includes members table scope path) a fields b →
      context.Derives table scope (.selected includes members) a fields b
  | includes, [], table, scope, path, fields, a, b, h => by
    rw [ProjectionContext.selectedFields, returns_pure] at h
    rw [h.1, h.2]
    exact .nothingSelected
  | includes, (key, value) :: rest, table, scope, path, fields, a, b, h => by
    rw [ProjectionContext.selectedFields] at h
    cases hrelation : table.relation? key with
    | some relation =>
      simp only [hrelation] at h
      by_cases hshown : value = .bool false
      · simp only [hshown, if_true, returns_bind, returns_pure] at h
        obtain ⟨_, _, ⟨rfl, rfl⟩, others, _, hothers, rfl, rfl⟩ := h
        rw [hshown]
        exact .hidden hrelation (of_selectedFields hothers)
      · simp only [hshown, if_false, returns_bind, returns_pure, returns_monadLift] at h
        obtain ⟨_, _, ⟨-, rfl⟩, expr, _, hexpr, _, _, ⟨rfl, rfl⟩, others, _, hothers, rfl, rfl⟩ := h
        exact .selectedRelation hrelation hshown (of_relationExpr hexpr)
          (of_selectedFields hothers)
    | none =>
      simp only [hrelation, returns_bind, returns_pure, returns_monadLift] at h
      obtain ⟨first, _, ⟨hfirst, rfl⟩, others, _, hothers, rfl, rfl⟩ := h
      exact .selectedColumn hrelation hfirst (of_selectedFields hothers)
termination_by includes members => (Json.membersSize members + Json.membersSize includes, 0)
decreasing_by
  all_goals
    have := size_includedAs?_le includes key
    have := size_selectTree?_le value
    simp only [Json.membersSize, Prod.lex_def]
    omega

/-- Compiled entries of an include tree have a derivation. -/
theorem of_includedFields : ∀ {includes : Members} {named : List String} {table : Table}
    {scope path : String} {fields : List (String × Expr)} {a b : Aliases},
    Returns (context.includedFields includes named table scope path) a fields b →
      context.Derives table scope (.included includes named) a fields b
  | [], named, table, scope, path, fields, a, b, h => by
    rw [ProjectionContext.includedFields, returns_pure] at h
    rw [h.1, h.2]
    exact .nothingIncluded
  | (name, entry) :: rest, named, table, scope, path, fields, a, b, h => by
    rw [ProjectionContext.includedFields] at h
    by_cases hhidden : entry = .bool false ∨ named.contains name = true
    · simp only [hhidden, if_true, returns_bind, returns_pure] at h
      obtain ⟨_, _, ⟨rfl, rfl⟩, others, _, hothers, rfl, rfl⟩ := h
      exact .skipped hhidden (of_includedFields hothers)
    · cases hrelation : table.relation? name with
      | some relation =>
        simp only [hhidden, if_false, hrelation, returns_bind, returns_pure] at h
        obtain ⟨expr, _, hexpr, _, _, ⟨rfl, rfl⟩, others, _, hothers, rfl, rfl⟩ := h
        exact .includedRelation hhidden hrelation (of_relationExpr hexpr)
          (of_includedFields hothers)
      | none =>
        simp only [hhidden, if_false, hrelation] at h
        simp at h
termination_by includes => (Json.membersSize includes, 0)
decreasing_by
  all_goals
    simp only [Json.membersSize, Json.sizeOrZero, Prod.lex_def]
    omega

/-- The compiled subquery of a relation has a derivation. -/
theorem of_relationExpr {key : String} {relation : Relation} {selection? included? : Option Json}
    {table : Table} {scope path : String} {expr : Expr} {a b : Aliases}
    (h : Returns (context.relationExpr relation selection? included? scope path) a expr b) :
    context.Derives table scope (.relation key relation selection? included?) a [(key, expr)] b := by
  rw [ProjectionContext.relationExpr] at h
  simp only [returns_bind, returns_monadLift, returns_inProjections, returns_fresh] at h
  obtain ⟨related, _, ⟨hrelated, rfl⟩, _, _, ⟨-, rfl⟩, _, _, ⟨_, ⟨rfl, rfl⟩, rfl⟩, object, c,
    hobject, h⟩ := h
  have hknown := Repository.table_eq_ok_iff.1 hrelated
  have hinner := of_fields hobject
  cases hfilter : (IncludeOptions.ofEntry included?).filter? with
  | none =>
    simp only [hfilter, returns_bind, returns_pure, returns_monadLift] at h
    obtain ⟨_, _, ⟨rfl, rfl⟩, order, _, ⟨horder, rfl⟩, rfl, rfl⟩ := h
    exact .relation hknown hinner (.of_none hfilter) horder
  | some filter =>
    simp only [hfilter, returns_bind, returns_pure, returns_monadLift, returns_inFilters] at h
    obtain ⟨extra?, _, ⟨m, hextra, rfl⟩, _, _, ⟨rfl, rfl⟩, order, _, ⟨horder, rfl⟩, rfl, rfl⟩ := h
    have hfound := RelatedFilter.of_some hfilter hextra
    cases extra? with
    | none => exact .relation hknown hinner hfound horder
    | some extra => exact .relation hknown hinner hfound horder
termination_by (Json.sizeOrZero selection? + Json.sizeOrZero included?, 2)
decreasing_by
  have := IncludeOptions.size_le included?
  have := size_orElse_le selection? (IncludeOptions.ofEntry included?).select?
  simp only [Prod.lex_def]
  omega

end

end Derives

/-- Without trees the expressions are all columns of the table. -/
theorem returns_fields_none {context : ProjectionContext} {table : Table} {scope path : String}
    {a : Aliases} :
    Returns (context.fields none none table scope path) a (allColumnFields table scope) a := by
  rw [fields]
  simp only [Json.membersOf, includedFields]
  simp [returns_monadLift, checkIncludes]

theorem expr_outputColumn (field : String × Expr) : (outputColumn field).expr = field.2 := by
  unfold outputColumn
  split
  · split <;> rfl
  · rfl

/-- An output column has no alias but its name. -/
theorem alias_outputColumn {field : String × Expr} {label : String}
    (h : label ∈ (outputColumn field).alias?) : label = field.1 := by
  unfold outputColumn at h
  split at h
  · split at h
    · cases h
    · exact (Option.some.inj h).symm
  · exact (Option.some.inj h).symm

/-- Compiled output columns are the named expressions of a derivation. -/
theorem derives_of_projections {context : ProjectionContext} {select? include? : Option Json}
    {name scope : String} {columns : List Sql.Projection} {a b : Aliases}
    (h : Returns (context.projections select? include? name scope) a columns b) :
    ∃ table fields, context.repository.table? name = some table ∧
      columns = fields.map outputColumn ∧
      context.Derives table scope (.fields select? include?) a fields b := by
  simp only [projections, returns_bind, returns_pure, returns_monadLift] at h
  obtain ⟨table, _, ⟨htable, rfl⟩, fields, _, hfields, rfl, rfl⟩ := h
  exact ⟨table, fields, Repository.table_eq_ok_iff.1 htable, rfl, .of_fields hfields⟩

end ProjectionContext

end RelationalQuery
