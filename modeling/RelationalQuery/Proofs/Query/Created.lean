import RelationalQuery.Proofs.Projection.WellScoped
import RelationalQuery.Query.Created

/-!
# Created rows are read from statements that return them

A selection after an insert reads the new row from the statement that created it, and created
related rows from theirs.  The statement of the new row returns the columns that the trees require,
also those that only created relations need; the statements of related rows return all columns if
the trees name their relation.

Main definitions:

- `CreatedRows.Given` says that the statements of created rows return what is read from them.

Main results:

- `contains_requiredColumns_of_createdSelect`: the columns that the trees require exist.
- `createdSelect_exposes`: the selection after an insert is well scoped.
-/

namespace RelationalQuery

open Sql (Catalog Expr Scope Select)

/-! ## Statements of created rows -/

/-- Created rows belong to a relation of the table.  If the trees name it, the statements that
created them return all columns of the related table. -/
structure CreatedRows.Given (catalog : Catalog) (table : Table) (select? include? : Option Json)
    (created : CreatedRows) : Prop where
  relation : table.relation? created.relation.name = some created.relation
  nonempty : created.sources ≠ []
  returned : isSelected select? include? created.relation.name = true →
    ∀ source ∈ created.sources, catalog source = some created.relation.relatedSchema.columns

namespace CreatedRows

variable {catalog : Catalog} {table : Table} {select? include? : Option Json}

/-- A property of all collected rows holds after a further statement if it holds of this alone, and of
rows of the same name that it is added to. -/
theorem forall_add {P : CreatedRows → Prop} {created : List CreatedRows} {relation : Relation}
    {source : String} (collected : ∀ rows ∈ created, P rows) (alone : P ⟨relation, [source]⟩)
    (added : ∀ rows, P rows → rows.relation.name = relation.name →
      P { rows with sources := rows.sources ++ [source] }) :
    ∀ rows ∈ add created relation source, P rows := by
  induction created with
  | nil =>
    rw [add, List.forall_mem_singleton]
    exact alone
  | cons first rest ih =>
    rw [List.forall_mem_cons] at collected
    unfold add
    split
    · rename_i hname
      rw [List.forall_mem_cons]
      exact ⟨added first collected.1 hname, collected.2⟩
    · rw [List.forall_mem_cons]
      exact ⟨collected.1, ih collected.2⟩

/-- A property of collected rows that each statement keeps holds after all of them. -/
theorem forall_foldl {P : CreatedRows → Prop} {entries : List (Relation × String)}
    (alone : ∀ entry ∈ entries, P ⟨entry.1, [entry.2]⟩)
    (added : ∀ entry ∈ entries, ∀ rows, P rows → rows.relation.name = entry.1.name →
      P { rows with sources := rows.sources ++ [entry.2] }) {created : List CreatedRows}
    (collected : ∀ rows ∈ created, P rows) :
    ∀ rows ∈ entries.foldl (fun created entry => add created entry.1 entry.2) created, P rows := by
  induction entries generalizing created with
  | nil => exact collected
  | cons entry rest ih =>
    rw [List.forall_mem_cons] at alone added
    exact ih alone.2 added.2 (forall_add collected alone.1 added.1)

/-- Statements that are collected one after the other return what is read from them if each of them
does. -/
theorem given_foldl {entries : List (Relation × String)}
    (known : ∀ entry ∈ entries, table.relation? entry.1.name = some entry.1)
    (returned : ∀ entry ∈ entries, isSelected select? include? entry.1.name = true →
      catalog entry.2 = some entry.1.relatedSchema.columns) :
    ∀ rows ∈ entries.foldl (fun created entry => add created entry.1 entry.2) [],
      rows.Given catalog table select? include? := by
  refine forall_foldl ?_ ?_ (List.forall_mem_nil _)
  · intro entry hentry
    refine ⟨known entry hentry, List.cons_ne_nil _ _, fun hselected => ?_⟩
    rw [List.forall_mem_singleton]
    exact returned entry hentry hselected
  · intro entry hentry rows hrows hname
    have hsame : rows.relation = entry.1 := by
      have := hrows.relation
      rwa [hname, known entry hentry, Option.some.injEq, eq_comm] at this
    refine ⟨hrows.relation, by simp, fun hselected => ?_⟩
    rw [List.forall_mem_append, List.forall_mem_singleton]
    refine ⟨hrows.returned hselected, ?_⟩
    rw [hsame] at hselected ⊢
    exact returned entry hentry hselected

/-- The rows of all statements have the columns that each of them returns. -/
theorem rows_provides {created : CreatedRows} {columns : List String}
    (nonempty : created.sources ≠ [])
    (known : ∀ source ∈ created.sources, catalog source = some columns) (scope : Scope Unit)
    (label : String) :
    (created.rows label).Provides catalog scope columns ∧ (created.rows label).scope = label := by
  unfold rows
  split
  · rename_i source hsources
    exact ⟨.table (known source (by simp [hsources])), rfl⟩
  · exact ⟨.unionAll nonempty known, rfl⟩

variable {context : ProjectionContext} {selection? included? : Option Json} {path : String}
  {value : Expr} {a b : Aliases}

/-- The steps of a compiled subquery over created rows. -/
theorem expr_eq_of_returns {created : CreatedRows}
    (compiled : Returns (created.expr context selection? included? path) a value b) :
    let options := IncludeOptions.ofEntry included?
    ∃ related object condition? order c m orderPath,
      context.repository.table? created.relation.relatedTable = some related ∧
      context.Derives related (numberedName context.config.projectionStem a.projections)
        (.fields (selection? <|> options.select?) options.include?)
        { a with projections := a.projections + 1 } object c ∧
      context.RelatedFilter related (numberedName context.config.projectionStem a.projections)
        options.filter? c.filters condition? m ∧
      (order = [] ∨ orderTerms? options.order? related
        (some (numberedName context.config.projectionStem a.projections)) orderPath = .ok order) ∧
      value = .subquery (relatedSelect created.relation.shape.isSingular options (.object object)
        (created.rows (numberedName context.config.projectionStem a.projections)) condition?
        order) := by
  intro options
  simp only [expr, IncludeOptions.parse, returns_bind, returns_monadLift, returns_inProjections,
    returns_fresh, bind_eq_ok_iff, pure_eq_ok_iff] at compiled
  obtain ⟨_, _, ⟨⟨_, -, rfl⟩, rfl⟩, _, _, ⟨_, ⟨rfl, rfl⟩, rfl⟩, related, _, ⟨hrelated, rfl⟩, object,
    c, hobject, compiled⟩ := compiled
  refine ⟨related, object, ?_⟩
  have hknown := Repository.table_eq_ok_iff.1 hrelated
  have hderives := ProjectionContext.Derives.of_fields hobject
  cases hfilter : options.filter? with
  | none =>
    simp only [options] at hfilter
    simp only [hfilter] at compiled
    split at compiled
    · simp only [returns_bind, returns_pure] at compiled
      obtain ⟨_, _, ⟨rfl, rfl⟩, _, _, ⟨rfl, rfl⟩, rfl, rfl⟩ := compiled
      exact ⟨none, [], _, _, path, hknown, hderives, ⟨rfl, rfl⟩, .inl rfl, rfl⟩
    · simp only [returns_bind, returns_pure, returns_monadLift] at compiled
      obtain ⟨_, _, ⟨rfl, rfl⟩, order, _, ⟨horder, rfl⟩, rfl, rfl⟩ := compiled
      exact ⟨none, order, _, _, _, hknown, hderives, ⟨rfl, rfl⟩, .inr horder, rfl⟩
  | some filter =>
    simp only [options] at hfilter
    simp only [hfilter] at compiled
    split at compiled
    · simp only [returns_bind, returns_pure, returns_inFilters] at compiled
      obtain ⟨condition?, _, ⟨m, hcondition, rfl⟩, _, _, ⟨rfl, rfl⟩, rfl, rfl⟩ := compiled
      exact ⟨condition?, [], _, m, path, hknown, hderives, ⟨_, hcondition⟩, .inl rfl, rfl⟩
    · simp only [returns_bind, returns_pure, returns_monadLift, returns_inFilters] at compiled
      obtain ⟨condition?, _, ⟨m, hcondition, rfl⟩, order, _, ⟨horder, rfl⟩, rfl, rfl⟩ := compiled
      exact ⟨condition?, order, _, m, _, hknown, hderives, ⟨_, hcondition⟩, .inr horder, rfl⟩

/-- The subquery over created rows reads nothing but what their statements return. -/
theorem expr_wellScoped (coherent : context.repository.Coherent)
    (apart : context.config.Apart context.repository)
    (extension : catalog.Extends context.repository.catalog) {created : CreatedRows}
    (belongs : created.relation.Coherent context.repository table)
    (nonempty : created.sources ≠ [])
    (known : ∀ source ∈ created.sources,
      catalog source = some created.relation.relatedSchema.columns)
    (compiled : Returns (created.expr context selection? included? path) a value b)
    (scope : Scope Unit) : value.WellScoped catalog scope := by
  obtain ⟨related, object, condition?, order, c, m, orderPath, hrelated, hderives, hfilter, horder,
    rfl⟩ := expr_eq_of_returns compiled
  have hname := Repository.table?_self hrelated
  have hreads := related.reads_push scope
    (numberedName context.config.projectionStem a.projections)
  obtain ⟨hprovides, hscope⟩ := created.rows_provides nonempty known scope
    (numberedName context.config.projectionStem a.projections)
  rw [← belongs.schema_of_table? hrelated] at hprovides
  have hobject := hderives.wellScoped coherent extension apart.projectionFilter trivial hname
    (fun column hcolumn =>
      hreads.own column (hderives.contains_columns coherent trivial hname column hcolumn))
    (freshFrom_numberedName _ a.projections)
  have hcondition := ProjectionContext.relatedFilter_wellScoped coherent extension hname
    (apart.projectionFilter _ (inFamily_numberedName _ a.projections)) hfilter hreads
  have hterms : ∀ term ∈ order, term.expr.WellScoped catalog (scope.push
      (.ofColumns (numberedName context.config.projectionStem a.projections)
        related.schema.columns)) := by
    rcases horder with rfl | horder
    · exact List.forall_mem_nil _
    · exact orderTerms_wellScoped horder hreads
  rw [← hscope] at hobject hcondition hterms
  exact relatedSelect_wellScoped hprovides (.object hobject) hcondition hterms

end CreatedRows

/-! ## Trees without created relations -/

/-- A column that a select tree reads is read by the tree without created relations, or is the join
column of one of these. -/
theorem mem_selectedColumns_withoutCreated (created : List CreatedRows) {select? : Option Json}
    {table : Table} {column : String} (h : column ∈ selectedColumns select? table) :
    column ∈ selectedColumns (withoutCreated created select?) table ∨
      ∃ rows ∈ created, column = readColumn table rows.relation.name := by
  match select? with
  | some (.object members) =>
    obtain ⟨entry, hentry, rfl⟩ := List.mem_map.1 h
    obtain ⟨hmem, hshown⟩ := List.mem_filter.1 hentry
    by_cases hcreated : (created.any (·.relation.name == entry.1)) = true
    · obtain ⟨rows, hrows, hname⟩ := List.any_eq_true.1 hcreated
      right
      exact ⟨rows, hrows, by rw [eq_of_beq hname]⟩
    · left
      refine List.mem_map.2 ⟨entry, List.mem_filter.2 ⟨List.mem_filter.2 ⟨hmem, ?_⟩, hshown⟩, rfl⟩
      simpa using hcreated
  | none | some .null | some (.bool _) | some (.number _) | some (.string _) | some (.array _) =>
    left
    exact h

/-- The tree without created relations reads no further columns. -/
theorem mem_requiredColumns_of_withoutCreated {created : List CreatedRows}
    {select? include? : Option Json} {table : Table} {column : String}
    (h : column ∈ requiredColumns (withoutCreated created select?)
      (withoutCreated created include?) table) :
    column ∈ requiredColumns select? include? table := by
  rw [mem_requiredColumns] at h ⊢
  rcases h with h | h
  · left
    match select? with
    | some (.object members) =>
      obtain ⟨entry, hentry, rfl⟩ := List.mem_map.1 h
      obtain ⟨hmem, hshown⟩ := List.mem_filter.1 hentry
      exact List.mem_map.2 ⟨entry, List.mem_filter.2 ⟨(List.mem_filter.1 hmem).1, hshown⟩, rfl⟩
    | none | some .null | some (.bool _) | some (.number _) | some (.string _) | some (.array _) =>
      exact h
  · right
    match include? with
    | some (.object members) =>
      obtain ⟨entry, hentry, hread⟩ := List.mem_filterMap.1 h
      exact List.mem_filterMap.2 ⟨entry, (List.mem_filter.1 hentry).1, hread⟩
    | none | some .null | some (.bool _) | some (.number _) | some (.string _) | some (.array _) =>
      exact h

/-! ## Selections after an insert -/

section

variable {context : ProjectionContext} {table : Table} {parent : String}
  {created : List CreatedRows} {select? include? : Option Json} {select : Select} {a b : Aliases}

/-- The columns that the trees require are columns of the table, also those that only created
relations need. -/
theorem contains_requiredColumns_of_createdSelect (coherent : context.repository.Coherent)
    (known : context.repository.table? table.name = some table)
    (relations : ∀ rows ∈ created, table.relation? rows.relation.name = some rows.relation)
    (compiled : Returns (createdSelect context table parent created select? include?) a select b) :
    ∀ column ∈ requiredColumns select? include? table, table.schema.contains column = true := by
  simp only [createdSelect, returns_bind] at compiled
  obtain ⟨columns, c, hcolumns, -⟩ := compiled
  have hcontains := ProjectionContext.contains_requiredColumns coherent hcolumns known
  have hrelation : ∀ {key relation}, table.relation? key = some relation →
      table.schema.contains relation.targetColumn = true := fun h =>
    (coherent _ _ known _ (Table.mem_of_relation? h)).target
  intro column hcolumn
  rcases mem_requiredColumns.1 hcolumn with hselected | hincluded
  · rcases mem_selectedColumns_withoutCreated created hselected with
      hkept | ⟨rows, hrows, rfl⟩
    · exact hcontains column (mem_requiredColumns.2 (.inl hkept))
    · simp only [readColumn, relations rows hrows]
      exact hrelation (relations rows hrows)
  · obtain ⟨entry, -, hread⟩ := List.mem_filterMap.1 hincluded
    obtain ⟨relation, hfound, rfl⟩ := Option.map_eq_some_iff.1 hread
    exact hrelation hfound

/-- The selection after an insert is well scoped if the statement of the new row returns the columns
that the trees require, and those of related rows return what is read from them. -/
theorem createdSelect_exposes (coherent : context.repository.Coherent)
    (apart : context.config.Apart context.repository) {catalog : Catalog}
    (extension : catalog.Extends context.repository.catalog)
    (known : context.repository.table? table.name = some table) {returned : List String}
    (hparent : catalog parent = some returned) (distinct : returned.Nodup)
    (required : ∀ column ∈ requiredColumns select? include? table, column ∈ returned)
    (free : ¬ InFamily context.config.projectionStem parent)
    (given : ∀ rows ∈ created, rows.Given catalog table select? include?)
    (compiled : Returns (createdSelect context table parent created select? include?) a select b) :
    ∃ columns, select.Exposes catalog [] columns := by
  simp only [createdSelect, returns_bind, returns_pure] at compiled
  obtain ⟨columns, c, hcolumns, relations, _, hrelations, rfl, rfl⟩ := compiled
  have hsees : ∀ column ∈ requiredColumns (withoutCreated created select?)
      (withoutCreated created include?) table,
      Scope.resolve (Scope.push [] (.ofColumns parent returned)) (some parent) column =
        some () := by
    intro column hcolumn
    exact Scope.resolve_push_ofColumns distinct
      (required column (mem_requiredColumns_of_withoutCreated hcolumn)) [] parent
  have hown := context.wellScoped_projections coherent apart extension hcolumns known hsees free
  have hcreated : ∀ column ∈ relations,
      column.expr.WellScoped catalog (Scope.push [] (.ofColumns parent returned)) := by
    refine forall_of_returns_mapM hrelations ?_
    intro rows hrows s column t hcolumn
    obtain ⟨hmem, hselected⟩ := List.mem_filter.1 hrows
    have hgiven := given rows hmem
    simp only [returns_bind, returns_pure] at hcolumn
    obtain ⟨value, _, hvalue, rfl, rfl⟩ := hcolumn
    exact CreatedRows.expr_wellScoped coherent apart extension
      (coherent _ _ known _ (Table.mem_of_relation? hgiven.relation)) hgiven.nonempty
      (hgiven.returned hselected) hvalue _
  refine ⟨_, .rows rfl (.table hparent) ?_ (by rintro _ ⟨⟩) (List.forall_mem_nil _)⟩
  exact List.forall_mem_append.2 ⟨hown, hcreated⟩

end

end RelationalQuery
