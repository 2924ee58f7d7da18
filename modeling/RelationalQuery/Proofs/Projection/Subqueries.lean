import RelationalQuery.Proofs.Projection.Column
import RelationalQuery.Proofs.Projection.Entries
import RelationalQuery.Proofs.Filter.Column
import RelationalQuery.Proofs.Sql.Subqueries

/-!
# Subqueries of projections

The relations of a repository may lead round in circles, but a compiled projection is bounded by its
trees: every subquery belongs to an entry of a relation in one of the trees, and no entry has two of
them.  A compilation that fails takes no more aliases either.

Main definitions:

- `Charged` relates subqueries to entries of relations, one by one and in the order of their
  aliases.
- `Spends` bounds the aliases of subqueries that a computation takes, also if it fails.

Main results:

- `FilterContext.Derives.subqueries_eq_nil`: conditions of filters have no subqueries that stand as
  expressions.
- `ProjectionContext.Derives.exists_charged`: the subqueries of a derivation are charged to
  different entries of its trees.
- `ProjectionContext.spends_fields`: every run takes at most one alias for each entry.
- `ProjectionContext.projections_bounded`: both for compiled output columns.
-/

namespace RelationalQuery

open Sql (Condition Expr FromItem OrderTerm Select)

/-! ## Filters -/

namespace Sql.Condition

/-- The condition of entries has the subqueries of these. -/
theorem subqueries_ofEntries (conditions : List Condition) :
    (ofEntries conditions).subqueries = listSubqueries conditions := by
  rw [← clauseSubqueries_all, ofEntries]
  cases all conditions with
  | none => rfl
  | some condition => rfl

/-- So has the condition of a group. -/
theorem listSubqueries_ofGroup (isDisjunction : Bool) (conditions : List Condition) :
    listSubqueries (ofGroup isDisjunction conditions) = listSubqueries conditions := by
  cases isDisjunction with
  | false => rfl
  | true => exact listSubqueries_singleton _

/-- A subquery for a related row is not counted, only those of its condition are. -/
theorem subqueries_relatedRow (relation : Relation) (inner : String) (condition : Condition)
    (negated : Bool) :
    (relatedRow relation inner condition negated).subqueries = condition.subqueries := by
  simp [relatedRow, subqueries, Select.restrict, Select.ofColumns, Select.subqueries,
    FromItem.clauseSubqueries, FromItem.aliased, FromItem.subqueries, clauseSubqueries,
    Projection.listSubqueries, Projection.plain, Expr.subqueries, OrderTerm.listSubqueries, added]

/-- A join has no subqueries by itself. -/
theorem subqueries_joinedWith (relation : Relation) (inner outer : String)
    (extra? : Option Condition) :
    ((relation.join inner outer).joinedWith extra?).subqueries = clauseSubqueries extra? := by
  cases extra? with
  | none => rfl
  | some condition => rw [joinedWith, subqueries_andAlso]; rfl

end Sql.Condition

namespace FilterContext

/-- The conditions of a derivation have no subqueries that stand as expressions. -/
theorem Derives.subqueries_eq_nil {context : FilterContext} {table : Table}
    {scope? : Option String} {task : FilterTask} {conditions : List Condition} {n m : Nat}
    (h : context.Derives table scope? task n conditions m) :
    Condition.listSubqueries conditions = [] := by
  induction h with
  | nil | noItems => rfl
  | cons _ _ ihHead ihTail => rw [Condition.listSubqueries_append, ihHead, ihTail, List.append_nil]
  | group _ ih => rw [Condition.listSubqueries_ofGroup, ih]
  | single _ ih =>
    rw [Condition.listSubqueries_ofGroup, Condition.listSubqueries_singleton,
      Condition.subqueries_ofEntries, ih]
  | negation _ ih =>
    rw [Condition.listSubqueries_singleton, Condition.subqueries, Condition.subqueries_ofEntries,
      ih]
  | unrelated _ =>
    rw [Condition.listSubqueries_singleton, Condition.subqueries_relatedRow]
    rfl
  | related _ _ ih =>
    rw [Condition.listSubqueries_singleton, Condition.subqueries_relatedRow,
      Condition.subqueries_joinedWith, Condition.clauseSubqueries_all, ih]
  | column predicates =>
    rw [Condition.listSubqueries_eq_flatMap, List.flatMap_eq_nil_iff]
    exact fun condition hcondition =>
      ((Table.columnConditions_onColumn predicates).2 condition hcondition).subqueries_eq_nil
  | item _ _ ihHead ihTail =>
    rw [Condition.listSubqueries, Condition.subqueries_ofEntries, ihHead, ihTail, List.append_nil]

end FilterContext

/-! ## Charged entries -/

/-- A query reads the rows of a table under an alias, itself or in a page of them. -/
def Sql.Select.IsOver (query : Select) (table label : String) : Prop :=
  query.from? = some (.aliased table label) ∨
    ∃ page, query.from? = some (.subquery page label) ∧ page.from? = some (.aliased table label)

/-- Subqueries that take aliases one after the other are over the related rows of entries; the two
numbers count the aliases before and behind them. -/
inductive Charged (stem : String) : Nat → List RelationEntry → List Select → Nat → Prop
  | nil {n : Nat} : Charged stem n [] [] n
  | cons {n m : Nat} {entry : RelationEntry} {query : Select} {entries : List RelationEntry}
      {queries : List Select}
      (rows : query.IsOver entry.relation.relatedTable (numberedName stem n))
      (rest : Charged stem (n + 1) entries queries m) :
      Charged stem n (entry :: entries) (query :: queries) m

namespace Charged

variable {stem : String} {n m k : Nat} {entries others : List RelationEntry}
  {queries rest : List Select}

/-- What is charged part by part is charged together. -/
theorem append (first : Charged stem n entries queries m) (second : Charged stem m others rest k) :
    Charged stem n (entries ++ others) (queries ++ rest) k := by
  induction first with
  | nil => exact second
  | cons rows _ ih => exact .cons rows (ih second)

/-- Every subquery has one entry and takes one alias. -/
theorem lengths (h : Charged stem n entries queries m) :
    entries.length = queries.length ∧ m = n + queries.length := by
  induction h with
  | nil => exact ⟨rfl, rfl⟩
  | cons _ _ ih =>
    obtain ⟨hlength, rfl⟩ := ih
    rw [List.length_cons, List.length_cons, hlength]
    exact ⟨rfl, by omega⟩

end Charged

/-! ## Subqueries of derivations -/

/-- The subqueries of fields come one field after the other. -/
theorem Sql.Expr.entrySubqueries_append (fields others : List (String × Expr)) :
    Expr.entrySubqueries (fields ++ others) =
      Expr.entrySubqueries fields ++ Expr.entrySubqueries others := by
  simp only [Expr.entrySubqueries_eq_flatMap, List.flatMap_append]

/-- Fields of columns have no subqueries. -/
theorem Sql.Expr.entrySubqueries_eq_nil {fields : List (String × Expr)} {qualifier? : Option String}
    {name : String} (h : ∀ field ∈ fields, field.2.OnColumn qualifier? name) :
    Expr.entrySubqueries fields = [] := by
  rw [Expr.entrySubqueries_eq_flatMap, List.flatMap_eq_nil_iff]
  exact fun field hfield => (h field hfield).subqueries_eq_nil

/-- Columns have no subqueries. -/
theorem entrySubqueries_allColumnFields (table : Table) (scope : String) :
    Expr.entrySubqueries (allColumnFields table scope) = [] := by
  rw [Expr.entrySubqueries_eq_flatMap, List.flatMap_eq_nil_iff]
  intro field hfield
  obtain ⟨column, -, rfl⟩ := List.mem_map.1 hfield
  rfl

/-- The keys of an order have no subqueries. -/
theorem subqueries_orderTerms {value? : Option Json} {table : Table} {scope path : String}
    {order : List OrderTerm} (h : orderTerms? value? table (some scope) path = .ok order) :
    ∀ term ∈ order, term.expr.subqueries = [] := by
  intro term hterm
  obtain ⟨_, -, hexpr⟩ := orderTerms_onColumn h term hterm
  exact hexpr.subqueries_eq_nil

namespace ProjectionContext

variable {context : ProjectionContext}

/-- The condition of a filter of related rows has no subqueries that stand as expressions. -/
theorem RelatedFilter.subqueries_eq_nil {related : Table} {inner : String} {filter? : Option Json}
    {n m : Nat} {extra? : Option Condition}
    (h : context.RelatedFilter related inner filter? n extra? m) :
    Condition.clauseSubqueries extra? = [] := by
  cases filter? with
  | none =>
    obtain ⟨rfl, -⟩ := h
    rfl
  | some filter =>
    obtain ⟨_, hfilter⟩ := h
    obtain ⟨members, conditions, rfl, rfl, derives⟩ := FilterContext.derives_of_condition hfilter
    rw [Condition.clauseSubqueries_all, derives.subqueries_eq_nil]

/-- The query for related rows has the subqueries of its object. -/
theorem subqueries_relatedQuery {relation : Relation} {options : IncludeOptions}
    {object : List (String × Expr)} {inner outer : String} {extra? : Option Condition}
    {order : List OrderTerm} (extra : Condition.clauseSubqueries extra? = [])
    (plain : ∀ term ∈ order, term.expr.subqueries = []) :
    (relatedQuery relation options object inner outer extra? order).subqueries =
      Expr.entrySubqueries object := by
  have hcondition := Condition.subqueries_joinedWith relation inner outer extra?
  have horder := OrderTerm.listSubqueries_eq_nil plain
  rw [extra] at hcondition
  unfold relatedQuery relatedSelect
  split
  · simp [Select.ofColumns, Select.subqueries, Sql.Projection.listSubqueries, Sql.Projection.plain,
      Expr.subqueries, FromItem.clauseSubqueries, FromItem.subqueries, FromItem.aliased,
      Condition.clauseSubqueries, hcondition, horder]
  · split <;>
      simp [Select.ofColumns, Select.ofRows, Select.subqueries, Sql.Projection.listSubqueries,
        Sql.Projection.plain, Expr.subqueries, FromItem.clauseSubqueries, FromItem.subqueries,
        FromItem.aliased, Condition.clauseSubqueries, OrderTerm.listSubqueries, hcondition, horder]

/-- The query for related rows is over the rows of the related table. -/
theorem relatedQuery_isOver (relation : Relation) (options : IncludeOptions)
    (object : List (String × Expr)) (inner outer : String) (extra? : Option Condition)
    (order : List OrderTerm) :
    (relatedQuery relation options object inner outer extra? order).IsOver relation.relatedTable
      inner := by
  unfold relatedQuery relatedSelect
  split
  · exact .inl rfl
  · simp only
    split
    · exact .inr ⟨_, rfl, rfl⟩
    · exact .inl rfl

/-- The subqueries of a derivation are charged to different entries of its trees. -/
theorem Derives.exists_charged {table : Table} {scope : String} {task : ProjectionTask}
    {fields : List (String × Expr)} {a b : Aliases}
    (h : context.Derives table scope task a fields b) {name : String}
    (known : context.repository.table? name = some table) (distinct : task.HasDistinctNames)
    (selected included : List String) :
    ∃ charged : List RelationEntry,
      (charged : Multiset RelationEntry) ≤
          task.entries context.repository name selected included ∧
        Charged context.config.projectionStem a.projections charged (Expr.entrySubqueries fields)
          b.projections := by
  induction h generalizing name selected included with
  | all _ ih =>
    obtain ⟨charged, hle, hcharged⟩ := ih known (distinct.included []) selected included
    refine ⟨charged, hle.trans (ProjectionTask.entries_all _).le, ?_⟩
    rw [Expr.entrySubqueries_append, entrySubqueries_allColumnFields, List.nil_append]
    exact hcharged
  | tree _ _ ihEntries ihOthers =>
    obtain ⟨first, hfirst, hentries⟩ := ihEntries known distinct.selected selected included
    obtain ⟨second, hsecond, hothers⟩ := ihOthers known (distinct.included _) selected included
    refine ⟨first ++ second, ?_, ?_⟩
    · rw [← Multiset.coe_add, ← ProjectionTask.entries_tree]
      exact add_le_add hfirst hsecond
    · rw [Expr.entrySubqueries_append]
      exact hentries.append hothers
  | nothingSelected | nothingIncluded => exact ⟨[], Multiset.zero_le _, .nil⟩
  | hidden _ _ ih =>
    obtain ⟨charged, hle, hcharged⟩ := ih known distinct.selectedTail selected included
    exact ⟨charged, hle.trans (ProjectionTask.entries_selectedTail _ _ _), hcharged⟩
  | @selectedRelation _ _ key _ _ _ _ _ _ _ _ _ named shown _ _ ihHead ihTail =>
    obtain ⟨first, hfirst, hhead⟩ :=
      ihHead known distinct.selectedRelation (selected ++ [key]) (included ++ [key])
    obtain ⟨second, hsecond, htail⟩ := ihTail known distinct.selectedTail selected included
    refine ⟨first ++ second, ?_, ?_⟩
    · rw [← Multiset.coe_add]
      exact (add_le_add hfirst hsecond).trans (ProjectionTask.entries_selectedRelation known shown
        named (ProjectionTask.HasDistinctNames.of_cons distinct.2).1)
    · rw [Expr.entrySubqueries_append]
      exact hhead.append htail
  | selectedColumn _ head _ ih =>
    obtain ⟨charged, hle, hcharged⟩ := ih known distinct.selectedTail selected included
    refine ⟨charged, hle.trans (ProjectionTask.entries_selectedTail _ _ _), ?_⟩
    rw [Expr.entrySubqueries_append, Expr.entrySubqueries_eq_nil (columnFields_onColumn head).2,
      List.nil_append]
    exact hcharged
  | skipped _ _ ih =>
    obtain ⟨charged, hle, hcharged⟩ := ih known distinct.includedTail selected included
    exact ⟨charged, hle.trans (ProjectionTask.entries_includedTail _ _ _), hcharged⟩
  | @includedRelation _ _ key _ _ _ _ _ _ _ _ _ shown named _ _ ihHead ihTail =>
    obtain ⟨first, hfirst, hhead⟩ :=
      ihHead known distinct.includedRelation (included ++ [key]) (included ++ [key])
    obtain ⟨second, hsecond, htail⟩ := ihTail known distinct.includedTail selected included
    refine ⟨first ++ second, ?_, ?_⟩
    · rw [← Multiset.coe_add, ← ProjectionTask.entries_includedRelation known shown named]
      exact add_le_add hfirst hsecond
    · rw [Expr.entrySubqueries_append]
      exact hhead.append htail
  | @relation _ _ _ key _ relation selection? included? _ _ _ _ _ _ related _ filter ordered ih =>
    obtain ⟨below, beside, hbelow⟩ := ProjectionTask.exists_entries_relation key relation
      selection? included?
    obtain ⟨charged, hle, hcharged⟩ := ih related distinct.inside below beside
    refine ⟨⟨selected, relation⟩ :: charged, ?_, ?_⟩
    · rw [← Multiset.cons_coe]
      exact (Multiset.cons_le_cons _ hle).trans hbelow
    · rw [Expr.entrySubqueries, Expr.entrySubqueries, List.append_nil, Expr.subqueries,
        subqueries_relatedQuery filter.subqueries_eq_nil (subqueries_orderTerms ordered)]
      exact .cons (relatedQuery_isOver ..) hcharged

end ProjectionContext

/-! ## Aliases of all runs -/

/-- From every state a computation takes at most so many aliases of projections, also if it
fails. -/
def Spends {α : Type} (computation : Naming α) (budget : Nat) : Prop :=
  ∀ a, (outcome computation a).2.projections ≤ a.projections + budget

namespace Spends

variable {α β : Type} {x : Naming α} {f : α → Naming β} {n m : Nat}

/-- What spends no more than some names spends no more than more of them. -/
theorem mono (h : Spends x n) (hle : n ≤ m) : Spends x m :=
  fun a => (h a).trans (Nat.add_le_add_left hle _)

theorem pure {value : α} : Spends (pure value) n :=
  fun _ => Nat.le_add_right _ _

theorem throw {error : QueryError} : Spends (throw error : Naming α) n :=
  fun _ => Nat.le_add_right _ _

/-- A fresh name spends itself. -/
theorem fresh {stem : String} : Spends (Naming.inProjections (Numbering.fresh stem)) 1 :=
  fun _ => Nat.le_refl _

/-- Steps one after the other spend what they spend together. -/
theorem bind (head : Spends x n) (tail : ∀ value, Spends (f value) m) :
    Spends (x >>= f) (n + m) := by
  intro a
  have hhead := head a
  rw [outcome_bind]
  cases hx : outcome x a with
  | mk result b =>
    rw [hx] at hhead
    cases result with
    | error => exact hhead.trans (Nat.add_le_add_left (Nat.le_add_right _ _) _)
    | ok value =>
      rw [← Nat.add_assoc]
      exact (tail value b).trans (Nat.add_le_add_right hhead _)

/-- A result that is only changed spends nothing more. -/
theorem bind_pure {γ : Type} {g : α → γ} (head : Spends x n) :
    Spends (x >>= fun value => Pure.pure (g value)) n :=
  (head.bind fun _ => pure).mono (Nat.add_zero n).le

/-- A computation without a state takes no aliases. -/
theorem bind_monadLift {y : Except QueryError α}
    (tail : ∀ value, y = .ok value → Spends (f value) m) :
    Spends (monadLift y >>= f) m := by
  intro a
  rw [outcome_bind]
  cases y with
  | error => exact Nat.le_add_right _ _
  | ok value => exact tail value rfl a

/-- A number for a filter is none for a projection. -/
theorem bind_inFilters {numbering : Numbering α} (tail : ∀ value, Spends (f value) m) :
    Spends (Naming.inFilters numbering >>= f) m :=
  (bind (fun _ => Nat.le_refl _) tail).mono (Nat.zero_add m).le

end Spends

namespace ProjectionContext

variable {context : ProjectionContext}

mutual

/-- Trees take at most one alias for each of their entries. -/
theorem spends_fields : ∀ {select? include? : Option Json} {table : Table}
    {name scope path : String} {selected included : List String},
    context.repository.table? name = some table →
    (ProjectionTask.fields select? include?).HasDistinctNames →
      Spends (context.fields select? include? table scope path)
        ((ProjectionTask.fields select? include?).entries context.repository name selected
          included).card
  | none, include?, table, name, scope, path, selected, included, known, distinct => by
    rw [ProjectionContext.fields, ← ProjectionTask.entries_all]
    refine .bind_monadLift fun _ _ => ?_
    exact (spends_includedFields known (distinct.included [])).bind_pure
  | some (.object members), include?, table, name, scope, path, selected, included, known,
      distinct => by
    rw [ProjectionContext.fields, ← ProjectionTask.entries_tree, Multiset.card_add]
    refine .bind_monadLift fun _ _ => ?_
    refine .bind (spends_selectedFields known distinct.selected) fun _ => ?_
    exact (spends_includedFields known (distinct.included _)).bind_pure
  | some .null, include?, table, name, scope, path, selected, included, known, distinct
  | some (.bool _), include?, table, name, scope, path, selected, included, known, distinct
  | some (.number _), include?, table, name, scope, path, selected, included, known, distinct
  | some (.string _), include?, table, name, scope, path, selected, included, known, distinct
  | some (.array _), include?, table, name, scope, path, selected, included, known, distinct => by
    simp only [ProjectionContext.fields]
    exact .bind_monadLift fun _ _ => .throw
termination_by select? include? => (Json.sizeOrZero select? + Json.sizeOrZero include?, 1)
decreasing_by
  all_goals
    have := Json.membersSize_membersOf_le include?
    simp only [Json.sizeOrZero_none, Json.sizeOrZero_some, Json.size, Prod.lex_def]
    omega

/-- The members of a select tree take at most one alias for each of their entries. -/
theorem spends_selectedFields : ∀ {includes members : Members} {table : Table}
    {name scope path : String} {selected included : List String},
    context.repository.table? name = some table →
    (ProjectionTask.selected includes members).HasDistinctNames →
      Spends (context.selectedFields includes members table scope path)
        ((ProjectionTask.selected includes members).entries context.repository name selected
          included).card
  | includes, [], table, name, scope, path, selected, included, known, distinct => by
    rw [ProjectionContext.selectedFields]
    exact .pure
  | includes, (key, value) :: rest, table, name, scope, path, selected, included, known,
      distinct => by
    rw [ProjectionContext.selectedFields]
    have htail : ∀ first : List (String × Expr), Spends
        (do return first ++ (← context.selectedFields includes rest table scope path))
        ((ProjectionTask.selected includes rest).entries context.repository name selected
          included).card :=
      fun _ => (spends_selectedFields known distinct.selectedTail).bind_pure
    cases hrelation : table.relation? key with
    | none =>
      refine (Spends.bind_monadLift fun _ _ => htail _).mono ?_
      exact Multiset.card_le_card (ProjectionTask.entries_selectedTail includes _ rest)
    | some relation =>
      simp only
      split
      · refine (Spends.bind .pure htail).mono ((Nat.zero_add _).le.trans ?_)
        exact Multiset.card_le_card (ProjectionTask.entries_selectedTail includes _ rest)
      · rename_i hshown
        refine Spends.mono ?_ (Multiset.card_le_card (ProjectionTask.entries_selectedRelation known
          hshown hrelation (ProjectionTask.HasDistinctNames.of_cons distinct.2).1))
        rw [Multiset.card_add]
        refine .bind_monadLift fun _ _ => ?_
        refine .bind (spends_relationExpr distinct.selectedRelation) fun expr => ?_
        exact htail [(key, expr)]
termination_by includes members => (Json.membersSize members + Json.membersSize includes, 0)
decreasing_by
  all_goals
    have := size_includedAs?_le includes key
    have := size_selectTree?_le value
    simp only [Json.membersSize, Prod.lex_def]
    omega

/-- The members of an include tree take at most one alias for each of their entries. -/
theorem spends_includedFields : ∀ {includes : Members} {named : List String} {table : Table}
    {name scope path : String} {selected included : List String},
    context.repository.table? name = some table →
    (ProjectionTask.included includes named).HasDistinctNames →
      Spends (context.includedFields includes named table scope path)
        ((ProjectionTask.included includes named).entries context.repository name selected
          included).card
  | [], named, table, name, scope, path, selected, included, known, distinct => by
    rw [ProjectionContext.includedFields]
    exact .pure
  | (key, entry) :: rest, named, table, name, scope, path, selected, included, known,
      distinct => by
    rw [ProjectionContext.includedFields]
    have htail : ∀ first : List (String × Expr), Spends
        (do return first ++ (← context.includedFields rest named table scope path))
        ((ProjectionTask.included rest named).entries context.repository name selected
          included).card :=
      fun _ => (spends_includedFields known distinct.includedTail).bind_pure
    split
    · refine (Spends.bind .pure htail).mono ((Nat.zero_add _).le.trans ?_)
      exact Multiset.card_le_card (ProjectionTask.entries_includedTail _ rest named)
    · rename_i hshown
      cases hrelation : table.relation? key with
      | none =>
        refine (Spends.bind .throw htail).mono ((Nat.zero_add _).le.trans ?_)
        exact Multiset.card_le_card (ProjectionTask.entries_includedTail _ rest named)
      | some relation =>
        rw [← ProjectionTask.entries_includedRelation known hshown hrelation, Multiset.card_add]
        refine .bind (spends_relationExpr distinct.includedRelation) fun expr => ?_
        exact htail [(key, expr)]
termination_by includes => (Json.membersSize includes, 0)
decreasing_by
  all_goals
    simp only [Json.membersSize, Json.sizeOrZero, Prod.lex_def]
    omega

/-- The subquery of a relation takes at most one alias for its entry and for each below it. -/
theorem spends_relationExpr {key : String} {relation : Relation}
    {selection? included? : Option Json} {name scope path : String}
    {selected included : List String}
    (distinct : (ProjectionTask.relation key relation selection? included?).HasDistinctNames) :
    Spends (context.relationExpr relation selection? included? scope path)
      ((ProjectionTask.relation key relation selection? included?).entries context.repository name
        selected included).card := by
  obtain ⟨below, beside, hle⟩ : ∃ below beside, _ ≤ ProjectionTask.entries context.repository name
      selected included (.relation key relation selection? included?) :=
    ProjectionTask.exists_entries_relation key relation selection? included?
  have hcard := Multiset.card_le_card hle
  rw [Multiset.card_cons, Nat.add_comm] at hcard
  refine Spends.mono ?_ hcard
  rw [ProjectionContext.relationExpr]
  refine .bind_monadLift fun related hrelated => .bind_monadLift fun _ _ => ?_
  refine .bind .fresh fun inner => ?_
  have hknown := Repository.table_eq_ok_iff.1 hrelated
  refine (Spends.bind (spends_fields hknown distinct.inside) fun object => ?_).mono
    (Nat.add_zero _).le
  cases (IncludeOptions.ofEntry included?).filter? with
  | none =>
    simp only [pure_bind]
    exact .bind_monadLift fun _ _ => .pure
  | some filter =>
    simp only [pure_bind]
    exact .bind_inFilters fun _ => .bind_monadLift fun _ _ => .pure
termination_by (Json.sizeOrZero selection? + Json.sizeOrZero included?, 2)
decreasing_by
  have := IncludeOptions.size_le included?
  have := size_orElse_le selection? (IncludeOptions.ofEntry included?).select?
  simp only [Prod.lex_def]
  omega

end

/-! ## Output columns -/

/-- However the relations of a repository lead round, a projection is bounded by its trees.  Every
run takes at most one alias for each entry of a relation in the trees.  If it succeeds, then its
subqueries take one alias each, one after the other, and they are charged to entries of their
relations, no two of them to the entry in one place. -/
theorem projections_bounded {select? include? : Option Json} {name scope : String}
    (selected : ∀ tree ∈ select?, tree.hasDistinctNames = true)
    (included : ∀ tree ∈ include?, tree.hasDistinctNames = true) (a : Aliases) :
    let entries := context.repository.projectionEntries select? include? name
    (outcome (context.projections select? include? name scope) a).2.projections ≤
        a.projections + entries.length ∧
      ∀ columns b, Returns (context.projections select? include? name scope) a columns b →
        let queries := Sql.Projection.listSubqueries columns
        b.projections = a.projections + queries.length ∧
          queries.length ≤ entries.length ∧
          ∃ charged : List RelationEntry,
            charged ⊆ entries ∧ (charged.map RelationEntry.place).Nodup ∧
              Charged context.config.projectionStem a.projections charged queries b.projections := by
  have hentries : (ProjectionTask.fields select? include?).entries context.repository name
      ["select"] ["include"] =
        (context.repository.projectionEntries select? include? name : List RelationEntry) := rfl
  have hdistinct : (ProjectionTask.fields select? include?).HasDistinctNames :=
    ⟨selected, included⟩
  refine ⟨?_, fun columns b compiled => ?_⟩
  · refine Spends.bind_monadLift (fun table htable => ?_) a
    rw [← Multiset.coe_card, ← hentries]
    exact (spends_fields (Repository.table_eq_ok_iff.1 htable) hdistinct).bind_pure
  · obtain ⟨table, fields, known, rfl, derives⟩ := derives_of_projections compiled
    obtain ⟨charged, hle, hcharged⟩ := derives.exists_charged known hdistinct ["select"] ["include"]
    have hqueries : Sql.Projection.listSubqueries (fields.map outputColumn) =
        Expr.entrySubqueries fields := by
      rw [Sql.Projection.listSubqueries_eq_flatMap, Expr.entrySubqueries_eq_flatMap,
        List.flatMap_map]
      simp only [expr_outputColumn]
    rw [hentries, Multiset.coe_le] at hle
    rw [hqueries]
    obtain ⟨hlength, haliases⟩ := hcharged.lengths
    refine ⟨haliases, hlength ▸ hle.length_le, charged, hle.subset, ?_, hcharged⟩
    obtain ⟨ordered, hperm, hsublist⟩ := hle
    exact (hperm.map _).nodup_iff.1 ((Repository.nodup_places_projectionEntries selected
      included).sublist (hsublist.map _))

/-! ## Round in a circle -/

/-- A select tree of one relation is compiled once that of its related rows is. -/
theorem returns_fields_related {table related : Table} {scope path key : String}
    {relation : Relation} {members : Members} {a b : Aliases} {object : List (String × Expr)}
    (named : table.relation? key = some relation)
    (known : context.repository.table? relation.relatedTable = some related)
    (inner : Returns (context.fields (some (.object members)) none related
      (numberedName context.config.projectionStem a.projections) (joinPath path key))
        { a with projections := a.projections + 1 } object b) :
    ∃ fields, Returns (context.fields (some (.object [(key, .object members)])) none table scope
      path) a fields b := by
  have hexpr : ∃ expr, Returns (context.relationExpr relation (some (.object members)) none scope
      (joinPath path key)) a expr b := by
    apply Exists.intro
    have hfilter : (IncludeOptions.ofEntry none).filter? = none := rfl
    rw [relationExpr]
    simp only [returns_bind, returns_monadLift, returns_inProjections, returns_fresh]
    refine ⟨related, _, ⟨Repository.table_eq_ok_iff.2 known, rfl⟩, (), _, ⟨rfl, rfl⟩, _, _,
      ⟨_, ⟨rfl, rfl⟩, rfl⟩, _, _, inner, ?_⟩
    simp only [hfilter, returns_bind, returns_monadLift, returns_pure]
    exact ⟨_, _, ⟨rfl, rfl⟩, _, _, ⟨rfl, rfl⟩, rfl, rfl⟩
  obtain ⟨expr, hexpr⟩ := hexpr
  refine ⟨[(key, expr)], ?_⟩
  rw [fields]
  simp only [Json.membersOf, selectedFields, includedFields, named, reduceCtorEq, if_false,
    returns_bind, returns_monadLift, returns_pure]
  exact ⟨_, _, ⟨rfl, rfl⟩, _, _, ⟨_, _, ⟨rfl, rfl⟩, _, _, hexpr, _, _, ⟨rfl, rfl⟩, _, _,
    ⟨rfl, rfl⟩, rfl, rfl⟩, _, _, ⟨rfl, rfl⟩, rfl, rfl⟩

end ProjectionContext

namespace Library

/-- The year of a book. -/
def bookTree : Json := .object [("year", .bool true)]

/-- The writer of a book, with all books of the writer. -/
def roundTree : Json := .object [("writer", .object [("books", bookTree)])]

/-- The trees that lead from a book to its writer and back are compiled to two subqueries. -/
theorem compiledRound :
    ∃ columns, Returns ((⟨repository, .default⟩ : ProjectionContext).projections (some roundTree)
      none "book" "book") .start columns ⟨2, 0⟩ := by
  have hyear : Returns ((⟨repository, .default⟩ : ProjectionContext).fields (some bookTree) none
      book (numberedName "S" 1) "book.writer.books") ⟨2, 0⟩
        [("year", .column (.qualified (numberedName "S" 1) "year"))] ⟨2, 0⟩ := by
    rw [bookTree, ProjectionContext.fields]
    simp only [Json.membersOf, ProjectionContext.selectedFields, ProjectionContext.includedFields]
    rfl
  obtain ⟨books, hbooks⟩ : ∃ fields,
      Returns ((⟨repository, .default⟩ : ProjectionContext).fields
        (some (.object [("books", bookTree)])) none author (numberedName "S" 0) "book.writer")
          ⟨1, 0⟩ fields ⟨2, 0⟩ := ProjectionContext.returns_fields_related rfl rfl hyear
  obtain ⟨fields, hfields⟩ : ∃ fields,
      Returns ((⟨repository, .default⟩ : ProjectionContext).fields (some roundTree) none book
        "book" "book") .start fields ⟨2, 0⟩ :=
    ProjectionContext.returns_fields_related rfl rfl hbooks
  refine ⟨fields.map ProjectionContext.outputColumn, ?_⟩
  simp only [ProjectionContext.projections, returns_bind, returns_monadLift, returns_pure]
  exact ⟨book, _, ⟨rfl, rfl⟩, fields, _, hfields, rfl, rfl⟩

end Library

/-- Books lead to their writers and writers to their books, but a tree that goes round once has two
entries, and gives two subqueries. -/
theorem ProjectionContext.projections_bounded_round :
    (∀ tree ∈ some Library.roundTree, tree.hasDistinctNames = true) ∧
      (Library.repository.projectionEntries (some Library.roundTree) none "book").map
          RelationEntry.place = [["select", "writer"], ["select", "writer", "books"]] ∧
        ∃ columns b, Returns ((⟨Library.repository, .default⟩ : ProjectionContext).projections
            (some Library.roundTree) none "book" "book") .start columns b ∧
          (Sql.Projection.listSubqueries columns).length = 2 ∧ b.projections = 2 := by
  have hselected : ∀ tree ∈ some Library.roundTree, tree.hasDistinctNames = true := by decide
  obtain ⟨columns, hcolumns⟩ := Library.compiledRound
  have hincluded : ∀ tree ∈ (none : Option Json), tree.hasDistinctNames = true := by decide
  obtain ⟨-, hreturns⟩ := projections_bounded hselected hincluded Aliases.start
  obtain ⟨haliases, -, -⟩ := hreturns columns _ hcolumns
  refine ⟨hselected, ?_, columns, _, hcolumns, ?_, rfl⟩
  · decide
  · simpa [Aliases.start] using haliases.symm

end RelationalQuery
