import RelationalQuery.Proofs.Projection.Trees
import RelationalQuery.Proofs.Projection.WellScoped
import RelationalQuery.Proofs.Sql.Reads

/-!
# Tables that compiled trees read

Filters and projections read the rows of related tables in subqueries.  Which tables these are can
be read off the trees: they are the tables that the relations lead to which the trees name, at any
depth.

Main definitions:

- `FilterTask.LeadsTo` says that a part of a filter names a relation that leads to a table.
- `ProjectionTask.LeadsTo` says the same of a part of a select and an include tree.
- `Relation.LeadsBelow` says it of the trees and of the filter inside the entry of a relation.

Main results:

- `FilterTask.leadsTo_relation` and `ProjectionTask.leadsTo_relation`: a relation leads to its
  related table, and to what is asked for inside.
- `FilterContext.Derives.mem_reads`: the conditions of a filter read the tables that it leads to,
  and nothing else.
- `ProjectionContext.Derives.mem_reads`: so do the named expressions of two trees.
- `ProjectionContext.reads_of_projections`: compiled output columns read tables of the repository.
-/

namespace RelationalQuery

open Sql (Condition Expr FromItem OrderTerm Select)

/-! ## Tables that filters lead to -/

/-- A part of a filter over a table names a relation that leads to the table of a name, itself or in
the filter of related rows. -/
inductive FilterTask.LeadsTo (repository : Repository) (name : String) : Table → FilterTask → Prop
  | entry {table : Table} {key : String} {kind : FilterEntry} {value : Json}
      {rest : List (String × Json)} (reading : table.ReadsAs key kind)
      (head : LeadsTo repository name table (.entry key kind value)) :
      LeadsTo repository name table (.members ((key, value) :: rest))
  | entries {table : Table} {entry : String × Json} {rest : List (String × Json)}
      (tail : LeadsTo repository name table (.members rest)) :
      LeadsTo repository name table (.members (entry :: rest))
  | group {table : Table} {key : String} {isDisjunction : Bool} {items : List Json}
      (inner : LeadsTo repository name table (.items items)) :
      LeadsTo repository name table (.entry key (.group isDisjunction) (.array items))
  | single {table : Table} {key : String} {isDisjunction : Bool} {members : List (String × Json)}
      (inner : LeadsTo repository name table (.members members)) :
      LeadsTo repository name table (.entry key (.group isDisjunction) (.object members))
  | negation {table : Table} {key : String} {members : List (String × Json)}
      (inner : LeadsTo repository name table (.members members)) :
      LeadsTo repository name table (.entry key .negation (.object members))
  | related {table related : Table} {key : String} {relation : Relation} {value : Json}
      (known : repository.table? relation.relatedTable = some related)
      (named : relation.relatedTable = name) :
      LeadsTo repository name table (.entry key (.relation relation) value)
  | inside {table related : Table} {key : String} {relation : Relation}
      {members : List (String × Json)}
      (known : repository.table? relation.relatedTable = some related)
      (inner : LeadsTo repository name related (.members members)) :
      LeadsTo repository name table (.entry key (.relation relation) (.object members))
  | item {table : Table} {members : List (String × Json)} {rest : List Json}
      (head : LeadsTo repository name table (.members members)) :
      LeadsTo repository name table (.items (.object members :: rest))
  | items {table : Table} {item : Json} {rest : List Json}
      (tail : LeadsTo repository name table (.items rest)) :
      LeadsTo repository name table (.items (item :: rest))

/-! ## Tables that projections lead to -/

/-- A part of a select and an include tree over a table names a relation that leads to the table of
a name, itself, or in the trees or the filter of related rows. -/
inductive ProjectionTask.LeadsTo (repository : Repository) (name : String) :
    Table → ProjectionTask → Prop
  | all {table : Table} {include? : Option Json}
      (inner : LeadsTo repository name table (.included (treeMembers include?) [])) :
      LeadsTo repository name table (.fields none include?)
  | selected {table : Table} {members : Members} {include? : Option Json}
      (inner : LeadsTo repository name table (.selected (treeMembers include?) members)) :
      LeadsTo repository name table (.fields (some (.object members)) include?)
  | included {table : Table} {members : Members} {include? : Option Json}
      (inner : LeadsTo repository name table (.included (treeMembers include?) (members.map (·.1)))) :
      LeadsTo repository name table (.fields (some (.object members)) include?)
  | selectedRelation {table : Table} {key : String} {relation : Relation} {value : Json}
      {includes rest : Members} (known : table.relations.find? (·.name == key) = some relation)
      (shown : value ≠ .bool false)
      (head : LeadsTo repository name table
        (.relation key relation (ownTree? value) (shownAs? includes key))) :
      LeadsTo repository name table (.selected includes ((key, value) :: rest))
  | selectedRest {table : Table} {entry : String × Json} {includes rest : Members}
      (tail : LeadsTo repository name table (.selected includes rest)) :
      LeadsTo repository name table (.selected includes (entry :: rest))
  | includedRelation {table : Table} {key : String} {relation : Relation} {entry : Json}
      {rest : Members} {named : List String}
      (shown : entry ≠ .bool false) (unnamed : key ∉ named)
      (known : table.relations.find? (·.name == key) = some relation)
      (head : LeadsTo repository name table (.relation key relation none (some entry))) :
      LeadsTo repository name table (.included ((key, entry) :: rest) named)
  | includedRest {table : Table} {entry : String × Json} {rest : Members} {named : List String}
      (tail : LeadsTo repository name table (.included rest named)) :
      LeadsTo repository name table (.included (entry :: rest) named)
  | related {table related : Table} {key : String} {relation : Relation}
      {tree? options? : Option Json}
      (known : repository.table? relation.relatedTable = some related)
      (named : relation.relatedTable = name) :
      LeadsTo repository name table (.relation key relation tree? options?)
  | inside {table related : Table} {key : String} {relation : Relation}
      {tree? options? : Option Json}
      (known : repository.table? relation.relatedTable = some related)
      (inner : LeadsTo repository name related
        (.fields (tree? <|> entryOption? options? "select") (entryOption? options? "include"))) :
      LeadsTo repository name table (.relation key relation tree? options?)
  | filter {table related : Table} {key : String} {relation : Relation}
      {tree? options? : Option Json} {members : Members}
      (known : repository.table? relation.relatedTable = some related)
      (given : entryOption? options? "where" = some (.object members))
      (inner : FilterTask.LeadsTo repository name related (.members members)) :
      LeadsTo repository name table (.relation key relation tree? options?)

/-- The trees or the filter of the related rows of a relation name a relation that leads to the
table of a name. -/
def Relation.LeadsBelow (repository : Repository) (name : String) (relation : Relation)
    (tree? options? : Option Json) : Prop :=
  ∃ related, repository.table? relation.relatedTable = some related ∧
    ((ProjectionTask.fields (tree? <|> entryOption? options? "select")
        (entryOption? options? "include")).LeadsTo repository name related ∨
      ∃ members, entryOption? options? "where" = some (.object members) ∧
        (FilterTask.members members).LeadsTo repository name related)

section

variable {repository : Repository} {name : String} {table : Table}

/-- A filter leads to tables of the repository. -/
theorem FilterTask.LeadsTo.known {task : FilterTask} (h : task.LeadsTo repository name table) :
    (repository.table? name).isSome = true := by
  induction h with
  | related known named => rw [← named, known, Option.isSome_some]
  | entry _ _ ih | entries _ ih | group _ ih | single _ ih | negation _ ih | inside _ _ ih
  | item _ ih | items _ ih => exact ih

/-- Trees lead to tables of the repository. -/
theorem ProjectionTask.LeadsTo.known {task : ProjectionTask}
    (h : task.LeadsTo repository name table) : (repository.table? name).isSome = true := by
  induction h with
  | related known named => rw [← named, known, Option.isSome_some]
  | filter _ _ inner => exact inner.known
  | all _ ih | selected _ ih | included _ ih | selectedRelation _ _ _ ih | selectedRest _ ih
  | includedRelation _ _ _ _ ih | includedRest _ ih | inside _ _ ih => exact ih

namespace FilterTask

variable {key : String} {value : Json}

/-- A filter leads to what its entries lead to. -/
theorem leadsTo_cons {rest : List (String × Json)} :
    (members ((key, value) :: rest)).LeadsTo repository name table ↔
      (entry key (.ofKey table key) value).LeadsTo repository name table ∨
        (members rest).LeadsTo repository name table := by
  constructor
  · intro h
    cases h with
    | entry reading head =>
      obtain rfl := Table.readsAs_iff.1 reading
      exact .inl head
    | entries tail => exact .inr tail
  · rintro (head | tail)
    · exact .entry (Table.readsAs_ofKey _ _) head
    · exact .entries tail

/-- A relation leads to its related table, and to what the filter of the related rows leads to. -/
theorem leadsTo_relation {relation : Relation} {related : Table} {inner : List (String × Json)}
    (known : repository.table? relation.relatedTable = some related) :
    (entry key (.relation relation) (.object inner)).LeadsTo repository name table ↔
      name = relation.relatedTable ∨ (members inner).LeadsTo repository name related := by
  constructor
  · intro h
    cases h with
    | related _ named => exact .inl named.symm
    | inside other inner =>
      obtain rfl := Option.some.inj (known.symm.trans other)
      exact .inr inner
  · rintro (rfl | inner)
    · exact .related known rfl
    · exact .inside known inner

/-- A relation that is tested for no related row leads to its related table alone. -/
theorem leadsTo_unrelated {relation : Relation} {related : Table}
    (known : repository.table? relation.relatedTable = some related) :
    (entry key (.relation relation) .null).LeadsTo repository name table ↔
      name = relation.relatedTable := by
  constructor
  · intro h
    cases h with
    | related _ named => exact named.symm
  · rintro rfl
    exact .related known rfl

/-- The items of a group lead to what each of them leads to. -/
theorem leadsTo_items {inner : List (String × Json)} {rest : List Json} :
    (items (.object inner :: rest)).LeadsTo repository name table ↔
      (members inner).LeadsTo repository name table ∨
        (items rest).LeadsTo repository name table := by
  constructor
  · intro h
    cases h with
    | item head => exact .inl head
    | items tail => exact .inr tail
  · rintro (head | tail)
    · exact .item head
    · exact .items tail

end FilterTask

namespace ProjectionTask

variable {key : String} {value : Json} {includes rest : Members} {named : List String}

/-- Two trees lead to what the entries of both lead to. -/
theorem leadsTo_tree {members : Members} {include? : Option Json} :
    (fields (some (.object members)) include?).LeadsTo repository name table ↔
      (selected (treeMembers include?) members).LeadsTo repository name table ∨
        (included (treeMembers include?) (members.map (·.1))).LeadsTo repository name table := by
  constructor
  · intro h
    cases h with
    | selected inner => exact .inl inner
    | included inner => exact .inr inner
  · rintro (inner | inner)
    · exact .selected inner
    · exact .included inner

/-- A relation that is selected with false leads nowhere. -/
theorem leadsTo_hidden :
    (selected includes ((key, .bool false) :: rest)).LeadsTo repository name table ↔
      (selected includes rest).LeadsTo repository name table := by
  constructor
  · intro h
    cases h with
    | selectedRelation _ shown => exact absurd rfl shown
    | selectedRest tail => exact tail
  · exact .selectedRest

/-- A selected column leads nowhere. -/
theorem leadsTo_selectedColumn (unnamed : table.relation? key = none) :
    (selected includes ((key, value) :: rest)).LeadsTo repository name table ↔
      (selected includes rest).LeadsTo repository name table := by
  constructor
  · intro h
    cases h with
    | selectedRelation known =>
      rw [← Table.relation?, unnamed] at known
      cases known
    | selectedRest tail => exact tail
  · exact .selectedRest

/-- A selected relation leads to what its own tree and its entry in the include tree lead to. -/
theorem leadsTo_selectedRelation {joined : Relation} (known : table.relation? key = some joined)
    (shown : value ≠ .bool false) :
    (selected includes ((key, value) :: rest)).LeadsTo repository name table ↔
      (relation key joined (ownTree? value) (shownAs? includes key)).LeadsTo repository name
          table ∨
        (selected includes rest).LeadsTo repository name table := by
  constructor
  · intro h
    cases h with
    | selectedRelation other _ head =>
      obtain rfl := Option.some.inj (known.symm.trans other)
      exact .inl head
    | selectedRest tail => exact .inr tail
  · rintro (head | tail)
    · exact .selectedRelation known shown head
    · exact .selectedRest tail

/-- An entry of the include tree that is false, or whose name the select tree has, leads nowhere. -/
theorem leadsTo_skipped (hidden : value = .bool false ∨ key ∈ named) :
    (included ((key, value) :: rest) named).LeadsTo repository name table ↔
      (included rest named).LeadsTo repository name table := by
  constructor
  · intro h
    cases h with
    | includedRelation shown unnamed => exact absurd (hidden.resolve_left shown) unnamed
    | includedRest tail => exact tail
  · exact .includedRest

/-- An included relation leads to what its entry leads to. -/
theorem leadsTo_includedRelation {joined : Relation} (known : table.relation? key = some joined)
    (shown : ¬ (value = .bool false ∨ key ∈ named)) :
    (included ((key, value) :: rest) named).LeadsTo repository name table ↔
      (relation key joined none (some value)).LeadsTo repository name table ∨
        (included rest named).LeadsTo repository name table := by
  constructor
  · intro h
    cases h with
    | includedRelation _ _ other head =>
      obtain rfl := Option.some.inj (known.symm.trans other)
      exact .inl head
    | includedRest tail => exact .inr tail
  · rintro (head | tail)
    · rw [not_or] at shown
      exact .includedRelation shown.1 shown.2 known head
    · exact .includedRest tail

/-- A relation leads to its related table, and to what its own trees lead to. -/
theorem leadsTo_relation {joined : Relation} {tree? options? : Option Json} {related : Table}
    (known : repository.table? joined.relatedTable = some related) :
    (relation key joined tree? options?).LeadsTo repository name table ↔
      name = joined.relatedTable ∨ joined.LeadsBelow repository name tree? options? := by
  constructor
  · intro h
    cases h with
    | related _ named => exact .inl named.symm
    | inside known inner => exact .inr ⟨_, known, .inl inner⟩
    | filter known given inner => exact .inr ⟨_, known, .inr ⟨_, given, inner⟩⟩
  · rintro (rfl | ⟨_, hknown, hinner | ⟨members, hgiven, hinner⟩⟩)
    · exact .related known rfl
    · exact .inside hknown hinner
    · exact .filter hknown hgiven hinner

end ProjectionTask

end

/-! ## Filters -/

namespace Sql.Condition

variable {conditions : List Condition}

theorem reads_ofEntries (conditions : List Condition) :
    (ofEntries conditions).reads = listReads conditions := by
  rw [← clauseReads_all, ofEntries]
  cases all conditions with
  | none => rfl
  | some condition => rfl

theorem listReads_ofGroup (isDisjunction : Bool) (conditions : List Condition) :
    listReads (ofGroup isDisjunction conditions) = listReads conditions := by
  cases isDisjunction with
  | false => rfl
  | true => exact listReads_singleton _

/-- A condition on related rows reads their table, and what the condition reads. -/
theorem reads_relatedRow (relation : Relation) (inner : String) (condition : Condition)
    (negated : Bool) : (relatedRow relation inner condition negated).reads =
      relation.relatedTable :: condition.reads := by
  simp [relatedRow, reads, Select.restrict, Select.ofColumns, Select.reads, FromItem.clauseReads,
    FromItem.aliased, FromItem.reads, clauseReads, Projection.listReads, Projection.plain,
    Expr.reads, OrderTerm.listReads, added]

/-- A join reads nothing by itself. -/
theorem reads_joinedWith (relation : Relation) (inner outer : String)
    (extra? : Option Condition) :
    ((relation.join inner outer).joinedWith extra?).reads = clauseReads extra? := by
  cases extra? with
  | none => rfl
  | some condition => rw [joinedWith, reads_andAlso]; rfl

end Sql.Condition

/-- The conditions of a column read nothing. -/
theorem Table.listReads_columnConditions {table : Table} {scope? : Option String}
    {path key : String} {value : Json} {conditions : List Condition}
    (h : table.columnConditions scope? path key value = .ok conditions) :
    Condition.listReads conditions = [] := by
  refine List.eq_nil_iff_forall_not_mem.2 fun name hname => ?_
  obtain ⟨condition, hcondition, hread⟩ := Condition.mem_listReads.1 hname
  rw [((columnConditions_onColumn h).2 condition hcondition).reads_eq_nil] at hread
  cases hread

namespace FilterContext

variable {context : FilterContext} {table : Table} {name : String}

/-- The conditions of a derivation read the tables that the filter leads to, and nothing else. -/
theorem Derives.mem_reads {scope? : Option String} {task : FilterTask}
    {conditions : List Condition} {n m : Nat}
    (h : context.Derives table scope? task n conditions m) :
    name ∈ Condition.listReads conditions ↔ task.LeadsTo context.repository name table := by
  induction h with
  | nil | noItems =>
    constructor
    · rintro ⟨⟩
    · rintro ⟨⟩
  | cons _ _ ihHead ihTail =>
    rw [Condition.listReads_append, List.mem_append, ihHead, ihTail, FilterTask.leadsTo_cons]
  | group _ ih =>
    rw [Condition.listReads_ofGroup, ih]
    constructor
    · exact .group
    · intro h
      cases h with
      | group inner => exact inner
  | single _ ih =>
    rw [Condition.listReads_ofGroup, Condition.listReads_singleton, Condition.reads_ofEntries, ih]
    constructor
    · exact .single
    · intro h
      cases h with
      | single inner => exact inner
  | negation _ ih =>
    rw [Condition.listReads_singleton, Condition.reads, Condition.reads_ofEntries, ih]
    constructor
    · exact .negation
    · intro h
      cases h with
      | negation inner => exact inner
  | unrelated known =>
    rw [Condition.listReads_singleton, Condition.reads_relatedRow,
      FilterTask.leadsTo_unrelated known]
    exact List.mem_singleton
  | related known _ ih =>
    rw [Condition.listReads_singleton, Condition.reads_relatedRow, Condition.reads_joinedWith,
      Condition.clauseReads_all, List.mem_cons, ih, FilterTask.leadsTo_relation known]
  | column predicates =>
    rw [Table.listReads_columnConditions predicates]
    constructor
    · rintro ⟨⟩
    · rintro ⟨⟩
  | item _ _ ihHead ihTail =>
    rw [Condition.listReads, List.mem_append, Condition.reads_ofEntries, ihHead, ihTail,
      FilterTask.leadsTo_items]

end FilterContext

/-! ## Projections -/

/-- The query over related rows reads these rows, and what its object and its condition read. -/
theorem mem_reads_relatedSelect {isSingular : Bool} {options : IncludeOptions} {object : Expr}
    {rows : FromItem} {condition? : Option Condition} {order : List OrderTerm} {name : String}
    (plain : ∀ term ∈ order, term.expr.reads = []) :
    name ∈ (relatedSelect isSingular options object rows condition? order).reads ↔
      name ∈ rows.reads ∨ name ∈ object.reads ∨ name ∈ Condition.clauseReads condition? := by
  have horder : ¬ ∃ term ∈ order, name ∈ term.expr.reads := by
    rintro ⟨term, hterm, hread⟩
    rw [plain term hterm] at hread
    cases hread
  have haggregate : name ∈ (Expr.aggregate object order).reads ↔ name ∈ object.reads := by
    rw [Expr.reads, List.mem_append, OrderTerm.mem_listReads, or_iff_left horder]
  unfold relatedSelect
  split
  · simp [Select.mem_reads, Select.ofColumns, FromItem.clauseReads, Sql.Projection.plain, horder]
  · simp only
    split
    · simp [Select.mem_reads, Select.ofColumns, Select.ofRows, FromItem.clauseReads,
        FromItem.reads, Condition.clauseReads, Sql.Projection.plain, haggregate, horder]
      tauto
    · simp [Select.mem_reads, Select.ofColumns, FromItem.clauseReads, Sql.Projection.plain,
        haggregate]

/-- The keys of an order read nothing. -/
theorem reads_orderTerms {value? : Option Json} {table : Table} {scope path : String}
    {order : List OrderTerm} (h : orderTerms? value? table (some scope) path = .ok order) :
    ∀ term ∈ order, term.expr.reads = [] := by
  intro term hterm
  obtain ⟨_, -, hexpr⟩ := orderTerms_onColumn h term hterm
  exact hexpr.reads_eq_nil

/-- The columns of a select tree read nothing. -/
theorem reads_columnFields {table : Table} {scope path key : String} {value : Json}
    {fields : List (String × Expr)} (h : columnFields table scope path key value = .ok fields) :
    ∀ field ∈ fields, field.2.reads = [] := by
  exact fun field hfield => ((columnFields_onColumn h).2 field hfield).reads_eq_nil

namespace ProjectionContext

variable {context : ProjectionContext} {table : Table} {name : String}

/-- The condition of a filter of related rows reads the tables that the filter leads to. -/
theorem RelatedFilter.mem_reads {related : Table} {inner : String} {filter? : Option Json}
    {n m : Nat} {extra? : Option Condition}
    (h : context.RelatedFilter related inner filter? n extra? m) :
    name ∈ Condition.clauseReads extra? ↔ ∃ members, filter? = some (.object members) ∧
      (FilterTask.members members).LeadsTo context.repository name related := by
  cases filter? with
  | none =>
    obtain ⟨rfl, -⟩ := h
    simp [Condition.clauseReads]
  | some filter =>
    obtain ⟨_, hfilter⟩ := h
    obtain ⟨members, conditions, rfl, rfl, derives⟩ :=
      FilterContext.derives_of_condition hfilter
    have hreads : name ∈ Condition.listReads conditions ↔
        (FilterTask.members members).LeadsTo context.repository name related := derives.mem_reads
    rw [Condition.clauseReads_all, hreads]
    constructor
    · exact fun hleads => ⟨members, rfl, hleads⟩
    · rintro ⟨other, hother, hleads⟩
      rw [Option.some.injEq, Json.object.injEq] at hother
      rw [hother]
      exact hleads

/-- The named expressions of a derivation read the tables that the trees lead to, and nothing
else. -/
theorem Derives.mem_reads {scope : String} {task : ProjectionTask} {fields : List (String × Expr)}
    {a b : Aliases} (h : context.Derives table scope task a fields b) :
    (∃ field ∈ fields, name ∈ field.2.reads) ↔ task.LeadsTo context.repository name table := by
  induction h with
  | @all table scope _ _ _ _ _ ih =>
    have hcolumns : ¬ ∃ field ∈ allColumnFields table scope, name ∈ field.2.reads := by
      rintro ⟨field, hfield, hread⟩
      obtain ⟨column, -, rfl⟩ := List.mem_map.1 hfield
      cases hread
    simp only [List.mem_append, or_and_right, exists_or, or_iff_right hcolumns, ih,
      ← treeMembers_eq]
    constructor
    · exact .all
    · intro h
      cases h with
      | all inner => exact inner
  | tree _ _ ihEntries ihOthers =>
    simp only [List.mem_append, or_and_right, exists_or, ihEntries, ihOthers, ← treeMembers_eq]
    exact ProjectionTask.leadsTo_tree.symm
  | nothingSelected | nothingIncluded =>
    constructor
    · rintro ⟨_, ⟨⟩, _⟩
    · rintro ⟨⟩
  | hidden _ _ ih => rw [ih, ProjectionTask.leadsTo_hidden]
  | selectedRelation known shown _ _ ihHead ihTail =>
    simp only [List.mem_append, or_and_right, exists_or, ihHead, ihTail, ← ownTree?_eq,
      ← shownAs?_eq, ProjectionTask.leadsTo_selectedRelation known shown]
  | @selectedColumn _ _ _ _ _ _ _ first _ _ _ unknown head _ ih =>
    have hcolumn : ¬ ∃ field ∈ first, name ∈ field.2.reads := by
      rintro ⟨field, hfield, hread⟩
      rw [reads_columnFields head field hfield] at hread
      cases hread
    simp only [List.mem_append, or_and_right, exists_or, or_iff_right hcolumn, ih,
      ProjectionTask.leadsTo_selectedColumn unknown]
  | skipped hidden _ ih =>
    rw [List.contains_iff_mem] at hidden
    rw [ih, ProjectionTask.leadsTo_skipped hidden]
  | includedRelation shown known _ _ ihHead ihTail =>
    rw [List.contains_iff_mem] at shown
    simp only [List.mem_append, or_and_right, exists_or, ihHead, ihTail,
      ProjectionTask.leadsTo_includedRelation known shown]
  | @relation _ related _ _ _ relation selection? included? object extra? order _ _ _ known _
      filter ordered ih =>
    have hbelow : relation.LeadsBelow context.repository name selection? included? ↔
        (∃ field ∈ object, name ∈ field.2.reads) ∨ name ∈ Condition.clauseReads extra? := by
      rw [ih, filter.mem_reads, IncludeOptions.ofEntry_eq]
      constructor
      · rintro ⟨other, hother, h⟩
        obtain rfl := Option.some.inj (known.symm.trans hother)
        exact h
      · exact fun h => ⟨related, known, h⟩
    rw [ProjectionTask.leadsTo_relation known, hbelow]
    simp only [List.mem_singleton, exists_eq_left, Expr.reads, relatedQuery,
      mem_reads_relatedSelect (reads_orderTerms ordered), FromItem.aliased, FromItem.reads,
      Expr.mem_entryReads, Condition.clauseReads, Condition.reads_joinedWith]

/-- Compiled output columns read the tables that the trees lead to, and nothing else. -/
theorem mem_reads_of_projections {select? include? : Option Json} {scope : String}
    {columns : List Sql.Projection} {a b : Aliases}
    (known : context.repository.table? table.name = some table)
    (compiled : Returns (context.projections select? include? table.name scope) a columns b) :
    (∃ column ∈ columns, name ∈ column.expr.reads) ↔
      (ProjectionTask.fields select? include?).LeadsTo context.repository name table := by
  obtain ⟨other, fields, hother, rfl, derives⟩ := derives_of_projections compiled
  obtain rfl := Option.some.inj (known.symm.trans hother)
  rw [← derives.mem_reads]
  constructor
  · rintro ⟨column, hcolumn, hread⟩
    obtain ⟨field, hfield, rfl⟩ := List.mem_map.1 hcolumn
    rw [expr_outputColumn] at hread
    exact ⟨field, hfield, hread⟩
  · rintro ⟨field, hfield, hread⟩
    rw [← expr_outputColumn] at hread
    exact ⟨_, List.mem_map_of_mem hfield, hread⟩

/-- Compiled output columns read tables of the repository and nothing else. -/
theorem reads_of_projections {select? include? : Option Json} {name scope : String}
    {columns : List Sql.Projection} {a b : Aliases}
    (compiled : Returns (context.projections select? include? name scope) a columns b) :
    ∀ column ∈ columns, context.repository.catalog.Knows column.expr.reads := by
  obtain ⟨table, fields, -, rfl, derives⟩ := derives_of_projections compiled
  intro column hcolumn read hread
  obtain ⟨field, hfield, rfl⟩ := List.mem_map.1 hcolumn
  rw [expr_outputColumn] at hread
  rw [Repository.catalog, Option.isSome_map]
  exact (derives.mem_reads.1 ⟨field, hfield, hread⟩).known

end ProjectionContext

end RelationalQuery
