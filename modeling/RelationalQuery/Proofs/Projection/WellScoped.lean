import RelationalQuery.Proofs.Filter.WellScoped
import RelationalQuery.Proofs.Projection.Column
import RelationalQuery.Proofs.Projection.Derivation

/-!
# Compiled projections are well scoped

The named expressions of two trees read some columns of their table in the scope around them, and
columns of related rows in the scopes of their own subqueries.  The statement in front of them may
return no more than the columns that the trees require, so that these are told apart from the other
columns of the table.

Main definitions:

- `ProjectionTask.columns` are the columns that a part of two trees reads in the scope around it.
- `Config.Apart` says that generated names are told apart from each other and from tables.

Main results:

- `ProjectionContext.Derives.contains_columns`: the columns that compiled trees read exist.
- `ProjectionContext.Derives.wellScoped`: the expressions of a derivation are well scoped.
- `ProjectionContext.wellScoped_projections`: compiled output columns are well scoped.
-/

namespace RelationalQuery

open Sql (Catalog ColumnRef Condition Expr FromItem OrderTerm Scope Select)

/-- The columns that a part of two trees reads in the scope around it. -/
def ProjectionTask.columns (table : Table) : ProjectionTask → List String
  | .fields select? include? => requiredColumns select? include? table
  | .selected _ entries =>
    (entries.filter (·.2 != .bool false)).map fun entry => readColumn table entry.1
  | .included includes _ =>
    includes.filterMap fun entry => (table.relation? entry.1).map (·.targetColumn)
  | .relation _ r _ _ => [r.targetColumn]

theorem mem_requiredColumns {select? include? : Option Json} {table : Table} {column : String} :
    column ∈ requiredColumns select? include? table ↔
      column ∈ selectedColumns select? table ∨ column ∈ includedColumns include? table := by
  rw [requiredColumns, List.mem_eraseDups, List.mem_append]

theorem includedColumns_eq (include? : Option Json) (table : Table) (named : List String) :
    includedColumns include? table =
      (ProjectionTask.included (Json.membersOf include?) named).columns table := by
  cases include? with
  | none => rfl
  | some tree => cases tree <;> rfl

namespace ProjectionTask

variable {table : Table} {column : String}

theorem mem_columns_selected {includes entries : Members} :
    column ∈ (selected includes entries).columns table ↔
      ∃ entry ∈ entries, entry.2 ≠ .bool false ∧ readColumn table entry.1 = column := by
  simp only [columns, List.mem_map, List.mem_filter, bne_iff_ne, and_assoc]

theorem mem_columns_included {includes : Members} {named : List String} :
    column ∈ (included includes named).columns table ↔
      ∃ entry ∈ includes, ∃ relation, table.relation? entry.1 = some relation ∧
        relation.targetColumn = column := by
  simp only [columns, List.mem_filterMap, Option.map_eq_some_iff]

/-- Fewer entries of a select tree read fewer columns. -/
theorem columns_selected_subset (includes : Members) (table : Table) (entry : String × Json)
    (rest : Members) : (selected includes rest).columns table ⊆
      (selected includes (entry :: rest)).columns table := by
  intro column hcolumn
  obtain ⟨other, hother, hread⟩ := mem_columns_selected.1 hcolumn
  exact mem_columns_selected.2 ⟨other, List.mem_cons_of_mem _ hother, hread⟩

/-- Fewer entries of an include tree read fewer columns. -/
theorem columns_included_subset (named : List String) (table : Table) (entry : String × Json)
    (rest : Members) : (included rest named).columns table ⊆
      (included (entry :: rest) named).columns table := by
  intro column hcolumn
  obtain ⟨other, hother, hread⟩ := mem_columns_included.1 hcolumn
  exact mem_columns_included.2 ⟨other, List.mem_cons_of_mem _ hother, hread⟩

end ProjectionTask

/-! ## Expressions of columns -/

section

variable {catalog : Catalog} {scope : Scope Unit}

/-- The output fields of a column that is shown read the column and nothing else. -/
theorem columnFields_wellScoped {table : Table} {name path key : String} {value : Json}
    {fields : List (String × Expr)} (h : columnFields table name path key value = .ok fields)
    (resolves : value ≠ .bool false → (ColumnRef.qualified name key).Resolves scope) :
    ∀ field ∈ fields, field.2.WellScoped catalog scope := by
  by_cases hshown : value = .bool false
  · rw [columnFields_hidden hshown h]
    exact List.forall_mem_nil _
  · exact fun field hfield =>
      ((columnFields_onColumn h).2 field hfield).wellScoped (resolves hshown)

/-- The keys of an order read columns of its table. -/
theorem orderTerms_wellScoped {value? : Option Json} {table : Table} {scope? : Option String}
    {path : String} {terms : List OrderTerm}
    (h : orderTerms? value? table scope? path = .ok terms)
    (reads : Reads scope scope? table fun _ => ()) :
    ∀ term ∈ terms, term.expr.WellScoped catalog scope := by
  intro term hterm
  obtain ⟨key, hcontains, hexpr⟩ := orderTerms_onColumn h term hterm
  exact hexpr.wellScoped (reads.own key hcontains)

/-! ## Queries for the rows of a relation -/

/-- The query over related rows reads them under one name, also when it is taken over a page. -/
theorem relatedSelect_wellScoped {isSingular : Bool} {options : IncludeOptions} {object : Expr}
    {rows : FromItem} {condition? : Option Condition} {order : List OrderTerm}
    {columns : List String} (provides : rows.Provides catalog scope columns)
    (hobject : object.WellScoped catalog (scope.push (.ofColumns rows.scope columns)))
    (hcondition : ∀ condition ∈ condition?,
      condition.WellScoped catalog (scope.push (.ofColumns rows.scope columns)))
    (horder : ∀ term ∈ order,
      term.expr.WellScoped catalog (scope.push (.ofColumns rows.scope columns))) :
    (Expr.subquery (relatedSelect isSingular options object rows condition? order)).WellScoped
      catalog scope := by
  have haggregate : ∀ column ∈ [Sql.Projection.plain (.aggregate object order)],
      column.expr.WellScoped catalog (scope.push (.ofColumns rows.scope columns)) := by
    rw [List.forall_mem_singleton]
    exact .aggregate hobject horder
  unfold relatedSelect
  split
  · refine .subquery (.rows rfl provides ?_ hcondition horder)
    intro column hcolumn
    rw [List.mem_singleton.1 hcolumn]
    exact hobject
  · simp only
    split
    · have hpage : (FromItem.subquery
          { Select.ofRows rows with
            where? := condition?, order := order, limit? := options.take?, offset? := options.skip? }
          rows.scope).Provides catalog scope columns :=
        .subquery (.rows rfl provides (List.forall_mem_nil _) hcondition horder)
      exact .subquery (.rows rfl hpage haggregate (by rintro _ ⟨⟩) (List.forall_mem_nil _))
    · exact .subquery (.rows rfl provides haggregate hcondition (List.forall_mem_nil _))

end

/-! ## Projections -/

namespace ProjectionContext

variable {context : ProjectionContext} {catalog : Catalog}

/-- The columns that compiled trees read are columns of their table. -/
theorem Derives.contains_columns (coherent : context.repository.Coherent) {table : Table}
    {name : String} {task : ProjectionTask} {fields : List (String × Expr)} {a b : Aliases}
    (h : context.Derives table name task a fields b) (belongs : task.Belongs table)
    (known : context.repository.table? table.name = some table) :
    ∀ column ∈ task.columns table, table.schema.contains column = true := by
  have ofRelation : ∀ {key relation}, table.relation? key = some relation →
      table.schema.contains relation.targetColumn = true := fun hrelation =>
    (coherent _ _ known _ (Table.mem_of_relation? hrelation)).target
  have ofIncludes : ∀ {includes : Members} {named : List String},
      ∀ column ∈ (ProjectionTask.included includes named).columns table,
        table.schema.contains column = true := by
    intro includes named column hcolumn
    obtain ⟨entry, -, relation, hrelation, rfl⟩ := ProjectionTask.mem_columns_included.1 hcolumn
    exact ofRelation hrelation
  induction h with
  | @all _ _ include? =>
    intro column hcolumn
    rcases mem_requiredColumns.1 hcolumn with hcolumn | hcolumn
    · exact ObjectSchema.contains_iff.2 hcolumn
    · rw [includedColumns_eq include? _ []] at hcolumn
      exact ofIncludes column hcolumn
  | @tree _ _ members include? _ _ _ _ _ _ _ ihEntries =>
    intro column hcolumn
    rcases mem_requiredColumns.1 hcolumn with hcolumn | hcolumn
    · exact ihEntries trivial known ofRelation ofIncludes column hcolumn
    · rw [includedColumns_eq include? _ []] at hcolumn
      exact ofIncludes column hcolumn
  | nothingSelected => exact List.forall_mem_nil _
  | nothingIncluded | skipped | includedRelation => exact ofIncludes
  | hidden _ _ ih => exact ih trivial known ofRelation ofIncludes
  | selectedRelation hrelation _ _ _ _ ihTail =>
    intro column hcolumn
    obtain ⟨entry, hentry, hshown, rfl⟩ := ProjectionTask.mem_columns_selected.1 hcolumn
    rcases List.mem_cons.1 hentry with rfl | hrest
    · simp only [readColumn, hrelation]
      exact ofRelation hrelation
    · exact ihTail trivial known ofRelation ofIncludes _
        (ProjectionTask.mem_columns_selected.2 ⟨entry, hrest, hshown, rfl⟩)
  | selectedColumn hrelation hfields _ ihTail =>
    simp only [columnFields, bind_eq_ok_iff] at hfields
    obtain ⟨field, hfield, -⟩ := hfields
    intro column hcolumn
    obtain ⟨entry, hentry, hshown, rfl⟩ := ProjectionTask.mem_columns_selected.1 hcolumn
    rcases List.mem_cons.1 hentry with rfl | hrest
    · simp only [readColumn, hrelation]
      exact ObjectSchema.contains_of_field hfield
    · exact ihTail trivial known ofRelation ofIncludes _
        (ProjectionTask.mem_columns_selected.2 ⟨entry, hrest, hshown, rfl⟩)
  | relation =>
    simp only [ProjectionTask.columns, List.forall_mem_singleton]
    exact (coherent _ _ known _ belongs).target

/-- The condition of the filter of related rows, which may be absent, is well scoped. -/
theorem relatedFilter_wellScoped (coherent : context.repository.Coherent)
    (extension : catalog.Extends context.repository.catalog) {related : Table}
    (known : context.repository.table? related.name = some related) {inner : String}
    (apart : ¬ InFamily context.config.filterStem inner) {filter? : Option Json}
    {extra? : Option Condition} {n m : Nat}
    (h : context.RelatedFilter related inner filter? n extra? m) {scope : Scope Unit}
    (reads : Reads scope (some inner) related fun _ => ()) :
    ∀ condition ∈ extra?, condition.WellScoped catalog scope := by
  cases filter? with
  | none =>
    rw [h.1]
    rintro _ ⟨⟩
  | some filter =>
    obtain ⟨path, h⟩ := h
    exact context.filters.wellScoped_condition coherent extension known h reads apart

/-- The expressions of a derivation are well scoped wherever the columns that its trees read are
read under a name that is not handed out any more. -/
theorem Derives.wellScoped (coherent : context.repository.Coherent)
    (extension : catalog.Extends context.repository.catalog)
    (disjoint : DisjointFamilies context.config.projectionStem context.config.filterStem)
    {table : Table} {name : String} {task : ProjectionTask} {fields : List (String × Expr)}
    {a b : Aliases} (h : context.Derives table name task a fields b) (belongs : task.Belongs table)
    (known : context.repository.table? table.name = some table) {scope : Scope Unit}
    (sees : ∀ column ∈ task.columns table, scope.resolve (some name) column = some ())
    (fresh : FreshFrom context.config.projectionStem a.projections name) :
    ∀ field ∈ fields, field.2.WellScoped catalog scope := by
  induction h generalizing scope with
  | @all table name include? _ _ _ _ ih =>
    rw [List.forall_mem_append]
    constructor
    · intro field hfield
      obtain ⟨column, hcolumn, rfl⟩ := List.mem_map.1 hfield
      exact .column (sees column (mem_requiredColumns.2 (.inl hcolumn)))
    · refine ih trivial known (fun column hcolumn => sees column ?_) fresh
      rw [← includedColumns_eq include? table []] at hcolumn
      exact mem_requiredColumns.2 (.inr hcolumn)
  | @tree table name members include? _ _ _ _ _ entries _ ihEntries ihOthers =>
    rw [List.forall_mem_append]
    constructor
    · refine ihEntries trivial known (fun column hcolumn => sees column ?_) fresh
      exact mem_requiredColumns.2 (.inl hcolumn)
    · refine ihOthers trivial known (fun column hcolumn => sees column ?_)
        (fresh.mono entries.projections_le)
      rw [← includedColumns_eq include? table (Members.keys members)] at hcolumn
      exact mem_requiredColumns.2 (.inr hcolumn)
  | nothingSelected | nothingIncluded => exact List.forall_mem_nil _
  | hidden _ _ ih => exact ih trivial known sees fresh
  | @selectedRelation table _ _ relation _ _ _ _ _ _ _ _ hrelation shown head _ ihHead ihTail =>
    rw [List.forall_mem_append]
    constructor
    · refine ihHead (Table.mem_of_relation? hrelation) known ?_ fresh
      simp only [ProjectionTask.columns, List.forall_mem_singleton]
      refine sees _ (ProjectionTask.mem_columns_selected.2 ⟨_, List.mem_cons_self, shown, ?_⟩)
      simp only [readColumn, hrelation]
    · exact ihTail trivial known
        (fun column hcolumn => sees column (ProjectionTask.columns_selected_subset _ _ _ _ hcolumn))
        (fresh.mono head.projections_le)
  | @selectedColumn table _ _ key _ _ _ _ _ _ _ hrelation hfields _ ihTail =>
    rw [List.forall_mem_append]
    constructor
    · refine columnFields_wellScoped hfields fun shown => ?_
      refine sees key (ProjectionTask.mem_columns_selected.2 ⟨_, List.mem_cons_self, shown, ?_⟩)
      simp only [readColumn, hrelation]
    · exact ihTail trivial known
        (fun column hcolumn => sees column (ProjectionTask.columns_selected_subset _ _ _ _ hcolumn))
        fresh
  | skipped _ _ ih =>
    exact ih trivial known
      (fun column hcolumn => sees column (ProjectionTask.columns_included_subset _ _ _ _ hcolumn))
      fresh
  | includedRelation _ hrelation head _ ihHead ihTail =>
    rw [List.forall_mem_append]
    constructor
    · refine ihHead (Table.mem_of_relation? hrelation) known ?_ fresh
      simp only [ProjectionTask.columns, List.forall_mem_singleton]
      exact sees _ (ProjectionTask.mem_columns_included.2
        ⟨_, List.mem_cons_self, _, hrelation, rfl⟩)
    · exact ihTail trivial known
        (fun column hcolumn => sees column (ProjectionTask.columns_included_subset _ _ _ _ hcolumn))
        (fresh.mono head.projections_le)
  | @relation table related name key path relation selection? included? object extra? order a b _
      hrelated inner filter ordered ih =>
    have hknown := Repository.table?_self hrelated
    have hbelongs := coherent _ _ known _ belongs
    have hapart := fresh a.projections (Nat.le_refl _)
    have hreads := related.reads_push scope
      (numberedName context.config.projectionStem a.projections)
    have hobject := ih trivial hknown
      (fun column hcolumn =>
        hreads.own column (inner.contains_columns coherent trivial hknown column hcolumn))
      (freshFrom_numberedName _ a.projections)
    have hextra := relatedFilter_wellScoped coherent extension hknown
      (disjoint _ (inFamily_numberedName _ a.projections)) filter hreads
    -- The join reads one column of the related rows and one column outside of them.
    have htarget : (ColumnRef.qualified name relation.targetColumn).Resolves
        (scope.push (.ofColumns (numberedName context.config.projectionStem a.projections)
          related.schema.columns)) :=
      (Scope.resolve_push_of_ne hapart.symm _).trans
        (sees relation.targetColumn (by simp [ProjectionTask.columns]))
    have hjoin : (relation.join (numberedName context.config.projectionStem a.projections)
        name).WellScoped catalog (scope.push (.ofColumns
          (numberedName context.config.projectionStem a.projections) related.schema.columns)) :=
      .compare (.column (hreads.own _ (hbelongs.source_of_table? hrelated))) (.column htarget)
    have hprovides : (FromItem.aliased relation.relatedTable
        (numberedName context.config.projectionStem a.projections)).Provides catalog scope
          related.schema.columns :=
      .table (Repository.catalog_of_table? extension hrelated)
    rw [List.forall_mem_singleton]
    refine relatedSelect_wellScoped hprovides (.object hobject) ?_
      (orderTerms_wellScoped ordered hreads)
    rintro _ ⟨⟩
    exact hjoin.joinedWith hextra

end ProjectionContext

/-! ## Output columns -/

/-- The names of statements, of subqueries in projections and of subqueries in filters have nothing
in common, and no table has such a name. -/
structure Config.Apart (config : Config) (repository : Repository) : Prop where
  chainProjection : DisjointFamilies config.chainStem config.projectionStem
  chainFilter : DisjointFamilies config.chainStem config.filterStem
  projectionFilter : DisjointFamilies config.projectionStem config.filterStem
  tables : ∀ name table, repository.table? name = some table →
    ¬ InFamily config.chainStem name ∧ ¬ InFamily config.projectionStem name ∧
      ¬ InFamily config.filterStem name

/-- No table has a name of a statement of a chain. -/
theorem Config.Apart.freeFrom {config : Config} {repository : Repository}
    (apart : config.Apart repository) : repository.catalog.FreeFrom config.chainStem 0 := by
  intro later _
  rw [Repository.catalog, Option.map_eq_none_iff, Option.eq_none_iff_forall_ne_some]
  intro table htable
  exact (apart.tables _ _ htable).1 (inFamily_numberedName _ later)

/-- A chain is well scoped if its statements are in every catalog with the tables: no table is hidden
by the statements of the chain. -/
theorem Config.Apart.chain_wellScoped {config : Config} {repository : Repository}
    (apart : config.Apart repository) {chain : Sql.Chain}
    (h : ∀ catalog : Catalog, catalog.Extends repository.catalog → chain.stem = config.chainStem ∧
      Sql.Chain.WellScopedFrom repository.columnsOf chain.stem 0 catalog chain.statements) :
    chain.WellScoped repository.columnsOf := by
  refine (h _ ?_).2
  intro name columns hname
  have hnot : name ∉ chain.statementNames := by
    intro hmem
    obtain ⟨index, -, rfl⟩ := List.mem_map.1 hmem
    rw [Sql.Chain.nameAt, (h _ (.refl _)).1, apart.freeFrom index (Nat.zero_le index)] at hname
    simp at hname
  rw [Sql.Chain.outside, if_neg hnot, Repository.columnsOf, hname]
  rfl

namespace ProjectionContext

variable {context : ProjectionContext} {select? include? : Option Json} {name scopeName : String}
  {columns : List Sql.Projection} {a b : Aliases}

/-- The columns that compiled trees require are columns of their table. -/
theorem contains_requiredColumns (coherent : context.repository.Coherent)
    (compiled : Returns (context.projections select? include? name scopeName) a columns b)
    {table : Table} (known : context.repository.table? name = some table) :
    ∀ column ∈ requiredColumns select? include? table, table.schema.contains column = true := by
  obtain ⟨found, fields, hfound, -, derives⟩ := derives_of_projections compiled
  obtain rfl : found = table := by simpa [hfound] using known
  have hname := Repository.table?_self hfound
  exact derives.contains_columns coherent trivial hname

/-- Compiled output columns are well scoped wherever the columns that their trees require are read
under a name apart from the aliases of projections. -/
theorem wellScoped_projections (coherent : context.repository.Coherent)
    (apart : context.config.Apart context.repository) {catalog : Catalog}
    (extension : catalog.Extends context.repository.catalog)
    (compiled : Returns (context.projections select? include? name scopeName) a columns b)
    {table : Table} (known : context.repository.table? name = some table) {scope : Scope Unit}
    (sees : ∀ column ∈ requiredColumns select? include? table,
      scope.resolve (some scopeName) column = some ())
    (free : ¬ InFamily context.config.projectionStem scopeName) :
    ∀ column ∈ columns, column.expr.WellScoped catalog scope := by
  obtain ⟨found, fields, hfound, rfl, derives⟩ := derives_of_projections compiled
  obtain rfl : found = table := by simpa [hfound] using known
  have hname := Repository.table?_self hfound
  have hfields := derives.wellScoped coherent extension apart.projectionFilter trivial hname sees
    (.of_not_inFamily free _)
  intro column hcolumn
  obtain ⟨field, hfield, rfl⟩ := List.mem_map.1 hcolumn
  have hexpr : (outputColumn field).expr = field.2 := by
    unfold outputColumn
    split
    · split <;> rfl
    · rfl
  rw [hexpr]
  exact hfields field hfield

/-- The output columns of a statement on a table alone are well scoped. -/
theorem wellScoped_own (coherent : context.repository.Coherent)
    (apart : context.config.Apart context.repository) {catalog : Catalog}
    (extension : catalog.Extends context.repository.catalog) {table : String}
    (compiled : Returns (context.projections select? include? table table) a columns b) :
    ∀ column ∈ columns,
      column.expr.WellScoped catalog [[.ofColumns table (context.repository.columnsOf table)]] := by
  obtain ⟨info, -, hfound, -, -⟩ := derives_of_projections compiled
  have hcontains := contains_requiredColumns coherent compiled hfound
  rw [Repository.columnsOf_table? hfound]
  refine wellScoped_projections coherent apart extension compiled hfound (fun column hcolumn => ?_)
    (apart.tables _ _ hfound).2.1
  exact (info.reads_push [] table).own column (hcontains column hcolumn)

/-- The condition of a statement on a table alone is well scoped. -/
theorem wellScoped_conditionOn? (coherent : context.repository.Coherent)
    (apart : context.config.Apart context.repository) {catalog : Catalog}
    (extension : catalog.Extends context.repository.catalog) {table : String}
    {filter? : Option Json} {scope? : Option String} {condition? : Option Condition}
    (compiled : Returns (context.conditionOn? filter? table scope?) a condition? b)
    (named : scope? = none ∨ scope? = some table) :
    ∀ condition ∈ condition?,
      condition.WellScoped catalog [[.ofColumns table (context.repository.columnsOf table)]] := by
  cases filter? with
  | none =>
    rw [conditionOn?, returns_pure] at compiled
    rw [compiled.1]
    rintro _ ⟨⟩
  | some filter =>
    simp only [conditionOn?, returns_inFilters, FilterContext.conditionOn, returns_bind,
      returns_monadLift] at compiled
    obtain ⟨m, ⟨info, _, ⟨hinfo, rfl⟩, hcondition⟩, -⟩ := compiled
    have hfound : context.repository.table? table = some info :=
      Repository.table_eq_ok_iff.1 hinfo
    obtain rfl := Repository.name_of_table? hfound
    rw [Repository.columnsOf_table? hfound]
    have hfree := (apart.tables _ _ hfound).2.2
    rcases named with rfl | rfl
    · exact context.filters.wellScoped_condition coherent extension hfound hcondition
        (info.reads_plain []) hfree
    · exact context.filters.wellScoped_condition coherent extension hfound hcondition
        (info.reads_push [] info.name) hfree

end ProjectionContext

end RelationalQuery
