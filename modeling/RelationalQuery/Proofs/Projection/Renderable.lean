import RelationalQuery.Proofs.Filter.WellScoped
import RelationalQuery.Proofs.Projection.Column
import RelationalQuery.Proofs.Projection.Derivation
import RelationalQuery.Proofs.Sql.Renderable

/-!
# Compiled trees can be rendered

Trees name only columns and relations that the tables declare, and the tables that these lead to.
So if everything that the tables declare has a name, then compiled filters and projections are
rendered.

Main definitions:

- `Table.IsNamed` and `Repository.IsNamed` say that tables, columns and relations have names.

Main results:

- `FilterContext.Derives.succeeds_conjuncts`: compiled filters are rendered.
- `ProjectionContext.Derives.succeeds_tokens`: compiled select and include trees are rendered.
-/

namespace RelationalQuery

open Sql (Condition Expr FromItem IsName OrderTerm Select)

/-! ## Tables with names -/

/-- A table, its columns and its relations have names. -/
structure Table.IsNamed (table : Table) : Prop where
  name : IsName table.name
  columns : ∀ column, table.schema.contains column = true → IsName column
  relations : ∀ relation ∈ table.relations, IsName relation.name

/-- All tables have names. -/
def Repository.IsNamed (repository : Repository) : Prop :=
  ∀ name table, repository.table? name = some table → table.IsNamed

theorem Repository.IsNamed.of_table? {repository : Repository} (named : repository.IsNamed)
    {name : String} {table : Table} (h : repository.table? name = some table) : IsName name := by
  have hname := (named name table h).name
  rwa [Repository.name_of_table? h] at hname

/-! ## Parts of queries -/

section

variable {relation : Relation} {repository : Repository} {table related : Table}
  {inner outer : String}

/-- A join compares two columns that have names. -/
theorem Relation.succeeds_join (coherent : relation.Coherent repository table)
    (ownNamed : table.IsNamed) (known : repository.table? relation.relatedTable = some related)
    (relatedNamed : related.IsNamed) (innerNamed : IsName inner) (outerNamed : IsName outer) :
    Succeeds (relation.join inner outer).conjuncts := by
  have hsource := relatedNamed.columns _ (coherent.source_of_table? known)
  have htarget := ownNamed.columns _ coherent.target
  rw [join, Condition.equal, Condition.conjuncts, succeeds_bind_iff fun _ => succeeds_bind_pure,
    Expr.tokens, Expr.tokens, Sql.ColumnRef.succeeds_tokens, Sql.ColumnRef.succeeds_tokens]
  refine ⟨⟨?_, hsource⟩, ?_, htarget⟩
  · rintro _ ⟨⟩
    exact innerNamed
  · rintro _ ⟨⟩
    exact outerNamed

theorem Sql.FromItem.succeeds_aliased (tableNamed : IsName relation.relatedTable)
    (innerNamed : IsName inner) :
    Succeeds (FromItem.aliased relation.relatedTable inner).tokens := by
  refine succeeds_table.2 ⟨tableNamed, ?_⟩
  rintro _ ⟨⟩
  exact innerNamed

namespace Sql.Condition

variable {conditions : List Condition} {condition : Condition}

theorem succeeds_ofEntries (h : ∀ condition ∈ conditions, Succeeds condition.conjuncts) :
    Succeeds (ofEntries conditions).conjuncts := by
  have hall := succeeds_all h
  unfold ofEntries
  cases hcondition : all conditions with
  | none =>
    rw [Option.getD_none, conjuncts, allConjuncts]
    exact succeeds_ok
  | some condition => exact hall condition hcondition

theorem succeeds_ofGroup (h : ∀ condition ∈ conditions, Succeeds condition.conjuncts)
    (isDisjunction : Bool) :
    ∀ condition ∈ ofGroup isDisjunction conditions, Succeeds condition.conjuncts := by
  unfold ofGroup
  split
  · rw [List.forall_mem_singleton, conjuncts, succeeds_bind_pure, succeeds_listTokens]
    exact h
  · exact h

theorem succeeds_joinedWith {extra? : Option Condition} (join : Succeeds condition.conjuncts)
    (extra : ∀ condition ∈ extra?, Succeeds condition.conjuncts) :
    Succeeds (condition.joinedWith extra?).conjuncts := by
  cases extra? with
  | none => exact join
  | some other => exact succeeds_andAlso.2 ⟨join, extra other rfl⟩

/-- A condition on related rows is rendered if the condition is. -/
theorem succeeds_relatedRow (tableNamed : IsName relation.relatedTable) (innerNamed : IsName inner)
    (h : Succeeds condition.conjuncts) (negated : Bool) :
    Succeeds (relatedRow relation inner condition negated).conjuncts := by
  rw [relatedRow, conjuncts, succeeds_bind_pure, Select.succeeds_tokens]
  refine ⟨?_, ?_, ?_, List.forall_mem_nil _⟩
  · refine List.forall_mem_singleton.2 ⟨?_, by simp [Projection.plain]⟩
    rw [Projection.plain, Expr.tokens]
    exact succeeds_ok
  · rintro _ ⟨⟩
    exact FromItem.succeeds_aliased tableNamed innerNamed
  · rintro _ ⟨⟩
    exact h

end Sql.Condition

end

/-! ## Filters -/

namespace FilterContext

variable {context : FilterContext} {table : Table} {scope? : Option String}

/-- Tables have names, and the stem of aliases does not hold the character zero. -/
structure IsNamed (context : FilterContext) : Prop where
  tables : context.repository.IsNamed
  stem : context.stem.toList.contains Sql.nul = false

/-- The conditions of a filter are rendered if the rows around it have a name. -/
theorem Derives.succeeds_conjuncts (coherent : context.repository.Coherent)
    (named : context.IsNamed) {task : FilterTask} {conditions : List Condition} {n m : Nat}
    (h : context.Derives table scope? task n conditions m) (keyed : task.Keyed table)
    (known : context.repository.table? table.name = some table)
    (labelled : ∀ scope ∈ scope?, IsName scope) :
    ∀ condition ∈ conditions, Succeeds condition.conjuncts := by
  have houter : ∀ {table : Table} {scope? : Option String},
      context.repository.table? table.name = some table → (∀ scope ∈ scope?, IsName scope) →
        IsName (scope?.getD table.name) := by
    intro table scope? known labelled
    cases scope? with
    | none => exact named.tables.of_table? known
    | some scope => exact labelled scope rfl
  induction h with
  | nil | noItems => exact List.forall_mem_nil _
  | cons _ _ ihHead ihTail =>
    rw [List.forall_mem_append]
    exact ⟨ihHead rfl known labelled, ihTail trivial known labelled⟩
  | @group _ _ _ isDisjunction _ _ _ _ _ ih =>
    exact Condition.succeeds_ofGroup (ih trivial known labelled) isDisjunction
  | @single _ _ _ isDisjunction _ _ _ _ _ ih =>
    refine Condition.succeeds_ofGroup ?_ isDisjunction
    rw [List.forall_mem_singleton]
    exact Condition.succeeds_ofEntries (ih trivial known labelled)
  | negation _ ih =>
    rw [List.forall_mem_singleton, Condition.conjuncts, succeeds_bind_pure]
    exact Condition.succeeds_ofEntries (ih trivial known labelled)
  | @unrelated table scope? _ relation related n hrelated =>
    have hcoherent := coherent _ _ known _ (FilterEntry.mem_of_ofKey keyed)
    have hinner := Sql.isName_numberedName named.stem n
    rw [List.forall_mem_singleton]
    refine Condition.succeeds_relatedRow (named.tables.of_table? hrelated) hinner ?_ true
    exact Relation.succeeds_join hcoherent (named.tables _ _ known) hrelated (named.tables _ _ hrelated) hinner
      (houter known labelled)
  | @related table scope? _ relation related members parts n _ hrelated inner ih =>
    have hcoherent := coherent _ _ known _ (FilterEntry.mem_of_ofKey keyed)
    have hinner := Sql.isName_numberedName named.stem n
    have hparts := ih trivial (Repository.table?_self hrelated) (by rintro _ ⟨⟩; exact hinner)
    have hjoin := Relation.succeeds_join hcoherent (named.tables _ _ known) hrelated
      (named.tables _ _ hrelated) hinner (houter known labelled)
    rw [List.forall_mem_singleton]
    exact Condition.succeeds_relatedRow (named.tables.of_table? hrelated) hinner
      (Condition.succeeds_joinedWith hjoin (Condition.succeeds_all hparts)) false
  | column predicates =>
    obtain ⟨hcontains, hparts⟩ := Table.columnConditions_onColumn predicates
    exact fun part hpart => (hparts part hpart).succeeds_conjuncts labelled
      ((named.tables _ _ known).columns _ hcontains)
  | item _ _ ihHead ihTail =>
    rw [List.forall_mem_cons]
    exact ⟨Condition.succeeds_ofEntries (ihHead trivial known labelled),
      ihTail trivial known labelled⟩

/-- A compiled filter is rendered if the rows around it have a name. -/
theorem succeeds_condition (coherent : context.repository.Coherent)
    (named : context.IsNamed) (known : context.repository.table? table.name = some table) {filter : Json} {path : String}
    {condition? : Option Condition} {n m : Nat}
    (compiled : Returns (context.condition filter table scope? path) n condition? m)
    (labelled : ∀ scope ∈ scope?, IsName scope) :
    ∀ condition ∈ condition?, Succeeds condition.conjuncts := by
  obtain ⟨members, conditions, rfl, rfl, derives⟩ := derives_of_condition compiled
  exact Condition.succeeds_all (derives.succeeds_conjuncts coherent named trivial known
    labelled)

end FilterContext

/-! ## Projections -/

/-- The keys of an order are rendered if the rows around it have a name. -/
theorem succeeds_orderTerms {value? : Option Json} {table : Table} {scope? : Option String}
    {path : String} {terms : List OrderTerm}
    (h : orderTerms? value? table scope? path = .ok terms) (named : table.IsNamed)
    (labelled : ∀ scope ∈ scope?, IsName scope) :
    ∀ term ∈ terms, Succeeds term.expr.tokens := by
  intro term hterm
  obtain ⟨key, hcontains, hexpr⟩ := orderTerms_onColumn h term hterm
  exact hexpr.succeeds_tokens labelled (named.columns key hcontains)

/-- The query over related rows is rendered if its parts are. -/
theorem succeeds_relatedSelect {isSingular : Bool} {options : IncludeOptions} {object : Expr}
    {rows : FromItem} {condition? : Option Condition} {order : List OrderTerm}
    (hobject : Succeeds object.tokens) (hrows : Succeeds rows.tokens) (label : IsName rows.scope)
    (hcondition : ∀ condition ∈ condition?, Succeeds condition.conjuncts)
    (hterms : ∀ term ∈ order, Succeeds term.expr.tokens) :
    Succeeds (relatedSelect isSingular options object rows condition? order).tokens := by
  have hfrom : ∀ item ∈ some rows, Succeeds item.tokens := by
    rintro _ ⟨⟩
    exact hrows
  have haggregate : Succeeds (Expr.aggregate object order).tokens := by
    rw [Expr.tokens, succeeds_bind_iff fun _ => succeeds_bind_pure,
      Sql.OrderTerm.succeeds_listTokens]
    exact ⟨hobject, hterms⟩
  have hplain : ∀ {expr : Expr}, Succeeds expr.tokens →
      ∀ column ∈ [Sql.Projection.plain expr], column.Renders := by
    intro expr hexpr
    exact List.forall_mem_singleton.2 ⟨hexpr, by simp [Sql.Projection.plain]⟩
  unfold relatedSelect
  split
  · exact Select.succeeds_tokens.2 ⟨hplain hobject, hfrom, hcondition, hterms⟩
  · simp only
    split
    · refine Select.succeeds_tokens.2 ⟨hplain haggregate, ?_, by simp [Select.ofColumns],
        List.forall_mem_nil _⟩
      rintro _ ⟨⟩
      refine FromItem.succeeds_subquery.2 ⟨Select.succeeds_tokens.2 ?_, label⟩
      exact ⟨List.forall_mem_nil _, hfrom, hcondition, hterms⟩
    · exact Select.succeeds_tokens.2 ⟨hplain haggregate, hfrom, hcondition, List.forall_mem_nil _⟩

/-- A relation that is a part of its own is named by a name. -/
def ProjectionTask.IsNamed : ProjectionTask → Prop
  | .relation key _ _ _ => IsName key
  | _ => True

namespace ProjectionContext

variable {context : ProjectionContext} {table : Table}

/-- Tables have names, and the stems of names do not hold the character zero. -/
structure IsNamed (context : ProjectionContext) : Prop where
  tables : context.repository.IsNamed
  chain : context.config.chainStem.toList.contains Sql.nul = false
  projection : context.config.projectionStem.toList.contains Sql.nul = false
  filter : context.config.filterStem.toList.contains Sql.nul = false

/-- The condition of a filter of related rows is rendered. -/
theorem RelatedFilter.succeeds_conjuncts (coherent : context.repository.Coherent)
    (named : context.IsNamed) {related : Table} {inner : String} {filter? : Option Json} {n m : Nat}
    {extra? : Option Condition} (known : context.repository.table? related.name = some related)
    (label : IsName inner) (h : context.RelatedFilter related inner filter? n extra? m) :
    ∀ condition ∈ extra?, Succeeds condition.conjuncts := by
  cases filter? with
  | none =>
    obtain ⟨rfl, -⟩ := h
    simp
  | some filter =>
    obtain ⟨path, hfilter⟩ := h
    refine FilterContext.succeeds_condition coherent ⟨named.tables, named.filter⟩ known hfilter ?_
    rintro _ ⟨⟩
    exact label

/-- The named expressions of two trees have names and are rendered. -/
theorem Derives.succeeds_tokens (coherent : context.repository.Coherent)
    (named : context.IsNamed) {scope : String} {task : ProjectionTask}
    {fields : List (String × Expr)} {a b : Aliases}
    (h : context.Derives table scope task a fields b) (belongs : task.Belongs table)
    (keyed : task.IsNamed) (known : context.repository.table? table.name = some table)
    (labelled : IsName scope) :
    ∀ field ∈ fields, IsName field.1 ∧ Succeeds field.2.tokens := by
  have honly : ∀ {scope : String}, IsName scope → ∀ label ∈ some scope, IsName label := by
    rintro scope hscope _ ⟨⟩
    exact hscope
  have hrelation : ∀ {table : Table} {key : String} {relation : Relation},
      context.repository.table? table.name = some table → table.relation? key = some relation →
        IsName key := by
    intro table key relation known hrelation
    have hname := (named.tables _ _ known).relations relation (Table.mem_of_relation? hrelation)
    rwa [Table.name_of_relation? hrelation] at hname
  induction h with
  | @all table scope include? _ _ _ _ ih =>
    rw [List.forall_mem_append]
    refine ⟨?_, ih trivial trivial known labelled⟩
    intro field hfield
    obtain ⟨column, hcolumn, rfl⟩ := List.mem_map.1 hfield
    have hname := (named.tables _ _ known).columns column (ObjectSchema.contains_iff.2 hcolumn)
    have honColumn : (Expr.column (.qualified scope column)).OnColumn (some scope) column := .column
    exact ⟨hname, honColumn.succeeds_tokens (honly labelled) hname⟩
  | tree _ _ ihEntries ihOthers =>
    rw [List.forall_mem_append]
    exact ⟨ihEntries trivial trivial known labelled, ihOthers trivial trivial known labelled⟩
  | nothingSelected | nothingIncluded => exact List.forall_mem_nil _
  | hidden _ _ ih | skipped _ _ ih => exact ih trivial trivial known labelled
  | selectedRelation hfound _ _ _ ihHead ihTail | includedRelation _ hfound _ _ ihHead ihTail =>
    rw [List.forall_mem_append]
    exact ⟨ihHead (Table.mem_of_relation? hfound) (hrelation known hfound) known labelled,
      ihTail trivial trivial known labelled⟩
  | selectedColumn _ head _ ih =>
    obtain ⟨hcontains, hfields⟩ := columnFields_onColumn head
    have hname := (named.tables _ _ known).columns _ hcontains
    rw [List.forall_mem_append]
    refine ⟨fun field hfield => ⟨?_, ?_⟩, ih trivial trivial known labelled⟩
    · have hkey := List.mem_map_of_mem (f := fun field : String × Expr => field.1) hfield
      rw [columnFields_names head] at hkey
      split at hkey
      · cases hkey
      · rwa [List.mem_singleton.1 hkey]
    · exact (hfields field hfield).succeeds_tokens (honly labelled) hname
  | @relation _ related scope _ _ _ _ _ _ _ _ a _ _ hrelated inner filter ordered ih =>
    have hknown := Repository.table?_self hrelated
    have hlabel := Sql.isName_numberedName named.projection a.projections
    have hcoherent := coherent _ _ known _ belongs
    have hobject := ih trivial trivial hknown hlabel
    have hjoin := Relation.succeeds_join hcoherent (named.tables _ _ known) hrelated
      (named.tables _ _ hrelated) hlabel labelled
    have hextra := filter.succeeds_conjuncts coherent named hknown hlabel
    rw [List.forall_mem_singleton, Expr.tokens, succeeds_bind_pure]
    refine ⟨keyed, succeeds_relatedSelect ?_ ?_ hlabel ?_ ?_⟩
    · rw [Expr.tokens, succeeds_bind_pure, Expr.succeeds_entryTokens]
      exact fun field hfield => (hobject field hfield).2
    · exact FromItem.succeeds_aliased (named.tables.of_table? hrelated) hlabel
    · rintro _ ⟨⟩
      exact Condition.succeeds_joinedWith hjoin hextra
    · exact succeeds_orderTerms ordered (named.tables _ _ hrelated) (honly hlabel)

/-- The output columns of compiled trees are rendered. -/
theorem renders_of_projections (coherent : context.repository.Coherent) (named : context.IsNamed)
    {select? include? : Option Json} {name scope : String} {columns : List Sql.Projection}
    {a b : Aliases} (h : Returns (context.projections select? include? name scope) a columns b)
    (labelled : IsName scope) : ∀ column ∈ columns, column.Renders := by
  obtain ⟨table, fields, hknown, rfl, derives⟩ := derives_of_projections h
  have hfields := derives.succeeds_tokens coherent named trivial trivial
    (Repository.table?_self hknown) labelled
  intro column hcolumn
  obtain ⟨field, hfield, rfl⟩ := List.mem_map.1 hcolumn
  obtain ⟨hname, htokens⟩ := hfields field hfield
  refine ⟨by rwa [expr_outputColumn], fun label hlabel => ?_⟩
  rwa [alias_outputColumn hlabel]

/-- The condition of a statement is rendered if the rows around it have a name. -/
theorem succeeds_conditionOn? (coherent : context.repository.Coherent) (named : context.IsNamed)
    {filter? : Option Json} {name : String} {scope? : Option String}
    {condition? : Option Condition} {a b : Aliases}
    (h : Returns (context.conditionOn? filter? name scope?) a condition? b)
    (labelled : ∀ scope ∈ scope?, IsName scope) :
    ∀ condition ∈ condition?, Succeeds condition.conjuncts := by
  cases filter? with
  | none =>
    rw [conditionOn?, returns_pure] at h
    rw [h.1]
    simp
  | some filter =>
    simp only [conditionOn?, FilterContext.conditionOn, returns_inFilters, returns_bind,
      returns_monadLift] at h
    obtain ⟨_, ⟨table, _, ⟨hknown, rfl⟩, h⟩, -⟩ := h
    have hself : context.repository.table? table.name = some table :=
      Repository.table?_self (Repository.table_eq_ok_iff.1 hknown)
    exact FilterContext.succeeds_condition coherent ⟨named.tables, named.filter⟩ hself h labelled

end ProjectionContext

end RelationalQuery
