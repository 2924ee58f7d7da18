import RelationalQuery.Proofs.Projection.Renderable
import RelationalQuery.Proofs.Query.WellScoped
import RelationalQuery.Proofs.Query.Writes

/-!
# Compiled queries can be rendered

The compiler hands names of three kinds to the renderer: names that the tables declare, names that it
numbers itself, and the name of the table of the query.  The declared names and the stems are names by
assumption, and the name of the table is looked up by every kind of query but two: a delete and a count
without any trees take it as it is.

Main definitions:

- `Query.looksUpTable` tells whether a query looks up its table.

Main results:

- `InsertPlan.succeeds_chain` and `AlterationPlan.succeeds_chain`: the chains of compiled writes are
  rendered.
- `WriteContext.rendered_iff`: a query that looks up its table is rendered, and every query is
  rendered exactly if its table has a name.
-/

namespace RelationalQuery

open Sql (Assignment Chain Condition Delete Expr FromItem IsName Projection Record Select Statement)

/-! ## Parts of statements -/

section

variable {schema : ObjectSchema}

/-- A column with a name is rendered. -/
theorem Sql.Projection.renders_column {column : String} (h : IsName column) :
    (Projection.column column).Renders := by
  have honColumn : (Expr.column (.plain column)).OnColumn none column := .column
  exact ⟨honColumn.succeeds_tokens (by simp) h, by simp [Projection.column, Projection.plain]⟩

/-- Trusted text is rendered. -/
theorem Sql.Projection.renders_raw (text : String) : (Projection.plain (.raw text)).Renders := by
  refine ⟨?_, by simp [Projection.plain]⟩
  rw [Projection.plain, Expr.tokens]
  exact succeeds_ok

/-- A literal value is rendered. -/
theorem Sql.Expr.IsLiteral.succeeds_tokens {expr : Expr} (h : expr.IsLiteral) :
    Succeeds expr.tokens := by
  rcases h with rfl | ⟨value, rfl⟩
  · rw [Expr.tokens]
    exact succeeds_ok
  · rw [Expr.tokens]
    exact succeeds_ok

/-- The expression refers to a column of a statement, and both have names. -/
def Sql.Expr.IsNamedLink (expr : Expr) : Prop :=
  ∃ source column, expr = .reference source column ∧ IsName source ∧ IsName column

/-- A new row of literal values and links is rendered if its columns have names. -/
theorem Sql.Record.succeeds_tokens_of_links {record : Record}
    (values : ∀ entry ∈ record.entries, IsName entry.1 ∧
      (entry.2.IsLiteral ∨ entry.2.IsNamedLink)) : Succeeds record.tokens := by
  refine Record.succeeds_tokens (fun entry hentry => ?_) fun source hsource => ?_
  · obtain ⟨hname, hliteral | ⟨source, column, hlink, hnames⟩⟩ := values entry hentry
    · exact ⟨hname, hliteral.succeeds_tokens⟩
    · refine ⟨hname, ?_⟩
      rw [hlink, Expr.tokens, Sql.succeeds_qualifiedTokens]
      simpa using hnames
  · obtain ⟨entry, hentry, hmem⟩ := Record.mem_sources.1 hsource
    obtain ⟨-, hliteral | ⟨source, column, hlink, hnames⟩⟩ := values entry hentry
    · have honColumn : entry.2.OnColumn none entry.1 := hliteral.onColumn
      rw [honColumn.sources_eq_nil] at hmem
      cases hmem
    · rw [hlink, Expr.sources, List.mem_singleton] at hmem
      rw [hmem]
      exact hnames.1

end

/-- A selection from the rows of a name is rendered exactly if the name and its other parts are. -/
theorem Sql.Select.succeeds_table {select : Select} {name : String}
    (rows : select.from? = some (.table name none))
    (columns : ∀ column ∈ select.columns, column.Renders)
    (condition : ∀ condition ∈ select.where?, Succeeds condition.conjuncts)
    (order : ∀ term ∈ select.order, Succeeds term.expr.tokens) :
    Succeeds select.tokens ↔ IsName name := by
  rw [Select.succeeds_tokens, rows]
  constructor
  · rintro ⟨-, hrows, -⟩
    exact (FromItem.succeeds_table.1 (hrows _ rfl)).1
  · intro hname
    refine ⟨columns, ?_, condition, order⟩
    rintro _ ⟨⟩
    exact FromItem.succeeds_table.2 ⟨hname, by simp⟩

/-- The columns of a related table have names. -/
theorem Repository.IsNamed.of_relatedSchema {repository : Repository} (named : repository.IsNamed)
    {table : Table} {relation : Relation} (coherent : relation.Coherent repository table)
    {column : String} (h : relation.relatedSchema.contains column = true) : IsName column := by
  obtain ⟨related, hrelated, hschema⟩ := coherent.related
  rw [← hschema] at h
  exact (named _ _ hrelated).columns column h

/-! ## Selections of created rows -/

section

variable {context : ProjectionContext} {table : Table} {a b : Aliases}

/-- The rows of statements with names are rendered under a name. -/
theorem CreatedRows.succeeds_rows {created : CreatedRows} {label : String}
    (sources : ∀ source ∈ created.sources, IsName source) (labelled : IsName label) :
    Succeeds (created.rows label).tokens ∧ IsName (created.rows label).scope := by
  unfold rows
  split
  · rename_i source hsources
    rw [hsources, List.forall_mem_singleton] at sources
    refine ⟨FromItem.succeeds_table.2 ⟨sources, ?_⟩, labelled⟩
    rintro _ ⟨⟩
    exact labelled
  · exact ⟨FromItem.succeeds_unionAll.2 ⟨sources, labelled⟩, labelled⟩

/-- The subquery over created rows is rendered if their statements have names. -/
theorem CreatedRows.succeeds_tokens (coherent : context.repository.Coherent)
    (named : context.IsNamed) {created : CreatedRows} {selection? included? : Option Json}
    {path : String} {value : Expr}
    (compiled : Returns (created.expr context selection? included? path) a value b)
    (sources : ∀ source ∈ created.sources, IsName source) : Succeeds value.tokens := by
  obtain ⟨related, object, condition?, order, c, m, orderPath, hrelated, derives, filter, ordered,
    rfl⟩ := expr_eq_of_returns compiled
  have hknown := Repository.table?_self hrelated
  have hlabel := Sql.isName_numberedName named.projection a.projections
  have hobject := derives.succeeds_tokens coherent named trivial trivial hknown hlabel
  have honly : ∀ label ∈ some (numberedName context.config.projectionStem a.projections),
      IsName label := by
    rintro _ ⟨⟩
    exact hlabel
  obtain ⟨hrows, hscope⟩ := succeeds_rows sources hlabel
  rw [Expr.tokens, succeeds_bind_pure]
  refine succeeds_relatedSelect ?_ hrows hscope
    (filter.succeeds_conjuncts coherent named hknown hlabel) ?_
  · rw [Expr.tokens, succeeds_bind_pure, Expr.succeeds_entryTokens]
    exact fun field hfield => (hobject field hfield).2
  · rcases ordered with rfl | ordered
    · exact List.forall_mem_nil _
    · exact succeeds_orderTerms ordered (named.tables _ _ hrelated) honly

/-- The selection after an insert is rendered if the statements of all rows have names. -/
theorem succeeds_createdSelect (coherent : context.repository.Coherent) (named : context.IsNamed)
    {parent : String} {created : List CreatedRows} {select? include? : Option Json}
    {select : Select}
    (known : context.repository.table? table.name = some table)
    (relations : ∀ rows ∈ created, table.relation? rows.relation.name = some rows.relation)
    (sources : ∀ rows ∈ created, ∀ source ∈ rows.sources, IsName source)
    (statement : IsName parent)
    (compiled : Returns (createdSelect context table parent created select? include?) a select b) :
    Succeeds select.tokens := by
  simp only [createdSelect, returns_bind, returns_pure] at compiled
  obtain ⟨columns, _, hcolumns, relationColumns, _, hrelations, rfl, rfl⟩ := compiled
  have hown := ProjectionContext.renders_of_projections coherent named hcolumns statement
  have hcreated : ∀ column ∈ relationColumns, column.Renders := by
    refine forall_of_returns_mapM hrelations ?_
    intro rows hrows s column t hcolumn
    simp only [returns_bind, returns_pure] at hcolumn
    obtain ⟨value, _, hvalue, rfl, rfl⟩ := hcolumn
    have hmem := (List.mem_filter.1 hrows).1
    refine ⟨CreatedRows.succeeds_tokens coherent named hvalue (sources rows hmem), ?_⟩
    rintro _ ⟨⟩
    exact (named.tables _ _ known).relations _ (Table.mem_of_relation? (relations rows hmem))
  exact (Select.succeeds_table rfl (List.forall_mem_append.2 ⟨hown, hcreated⟩) (by
    simp [Select.ofColumns]) (List.forall_mem_nil _)).2 statement

end

/-! ## Statements of inserts -/

/-- The table that a relation leads to has a name. -/
theorem Repository.IsNamed.of_relatedTable {repository : Repository} (named : repository.IsNamed)
    {table : Table} {relation : Relation} (coherent : relation.Coherent repository table) :
    IsName relation.relatedTable := by
  obtain ⟨related, hrelated, -⟩ := coherent.related
  exact named.of_table? hrelated

namespace InsertPlan

variable {plan : InsertPlan} {table : Table} {stem : String} {select? include? : Option Json}

/-- Created rows are read from statements of the chain. -/
theorem isName_of_mem_created (stemmed : stem.toList.contains Sql.nul = false) :
    ∀ rows ∈ plan.created stem, ∀ source ∈ rows.sources, IsName source := by
  let entries := plan.parents.zipIdx.map (fun entry => (entry.1.relation, numberedName stem entry.2))
    ++ plan.children.zipIdx.map fun entry => (entry.1.relation, plan.childName stem entry.2)
  have hnames : ∀ entry ∈ entries, IsName entry.2 := by
    intro entry hentry
    rcases List.mem_append.1 hentry with hentry | hentry
    · obtain ⟨row, -, rfl⟩ := List.mem_map.1 hentry
      exact Sql.isName_numberedName stemmed _
    · obtain ⟨row, -, rfl⟩ := List.mem_map.1 hentry
      exact Sql.isName_numberedName stemmed _
  refine CreatedRows.forall_foldl ?_ ?_ (List.forall_mem_nil _)
  · intro entry hentry
    exact List.forall_mem_singleton.2 (hnames entry hentry)
  · intro entry hentry rows hrows _
    rw [List.forall_mem_append, List.forall_mem_singleton]
    exact ⟨hrows, hnames entry hentry⟩

theorem renders_allColumns : ∀ column ∈ allColumns, column.Renders :=
  List.forall_mem_singleton.2 (Projection.renders_raw "*")

section

variable {repository : Repository} (coherent : repository.Coherent) (named : repository.IsNamed)
  (known : repository.table? table.name = some table) (fits : plan.Fits table)

include coherent named known fits

/-- The statement for a row that the new row refers to is rendered. -/
theorem succeeds_parentStatement {row : NewRow} (hrow : row ∈ plan.parents) :
    Succeeds (parentStatement select? include? row).tokens := by
  have hfits := fits.parents row hrow
  have hcoherent := coherent _ _ known _ (Table.mem_of_relation? hfits.relation)
  have hcolumns : ∀ column, row.relation.relatedSchema.contains column = true → IsName column :=
    fun _ => named.of_relatedSchema hcoherent
  refine Sql.Insert.succeeds_tokens.2 ⟨named.of_relatedTable hcoherent, ?_, ?_⟩
  · refine Record.succeeds_tokens_of_links fun entry hentry => ?_
    obtain ⟨hcontains, hliteral⟩ := hfits.record entry hentry
    exact ⟨hcolumns _ hcontains, .inl hliteral⟩
  · split
    · exact renders_allColumns
    · exact List.forall_mem_singleton.2 (Projection.renders_column (hcolumns _ hcoherent.source))

/-- The statement for a row that refers to the new row is rendered. -/
theorem succeeds_childStatement (stemmed : stem.toList.contains Sql.nul = false) {row : NewRow}
    (hrow : row ∈ plan.children) :
    Succeeds (plan.childStatement stem select? include? row).tokens := by
  have hfits := fits.children row hrow
  have hcoherent := coherent _ _ known _ (Table.mem_of_relation? hfits.relation)
  have hcolumns : ∀ column, row.relation.relatedSchema.contains column = true → IsName column :=
    fun _ => named.of_relatedSchema hcoherent
  refine Sql.Insert.succeeds_tokens.2 ⟨named.of_relatedTable hcoherent, ?_, ?_⟩
  · refine Record.succeeds_tokens_of_links fun entry hentry => ?_
    rcases Record.mem_set hentry with rfl | hold
    · have htarget := (named _ _ known).columns _ hcoherent.target
      exact ⟨hcolumns _ hcoherent.source,
        .inr ⟨_, _, rfl, Sql.isName_numberedName stemmed _, htarget⟩⟩
    · obtain ⟨hcontains, hliteral⟩ := hfits.record entry hold
      exact ⟨hcolumns _ hcontains, .inl hliteral⟩
  · split
    · exact renders_allColumns
    · exact List.forall_mem_nil _

/-- The statement for the new row is rendered if its output columns are. -/
theorem succeeds_ownStatement (stemmed : stem.toList.contains Sql.nul = false)
    {returning : List Projection} (returned : ∀ column ∈ returning, column.Renders) :
    Succeeds (plan.ownStatement stem table returning).tokens := by
  have hcolumns := (named _ _ known).columns
  refine Sql.Insert.succeeds_tokens.2 ⟨named.of_table? known, ?_, returned⟩
  refine Record.succeeds_tokens_of_links fun entry hentry => ?_
  rcases Record.mem_setAll hentry with hlink | hown
  · obtain ⟨⟨row, k⟩, hrow, rfl⟩ := List.mem_map.1 hlink
    have hparent := List.mem_of_getElem? (List.mem_zipIdx_iff_getElem?.1 hrow)
    have hcoherent := coherent _ _ known _
      (Table.mem_of_relation? (fits.parents row hparent).relation)
    exact ⟨hcolumns _ hcoherent.target, .inr ⟨_, _, rfl, Sql.isName_numberedName stemmed _,
      named.of_relatedSchema hcoherent hcoherent.source⟩⟩
  · obtain ⟨hcontains, hliteral⟩ := fits.own entry hown
    exact ⟨hcolumns _ hcontains, .inl hliteral⟩

end

section

variable {context : ProjectionContext} (coherent : context.repository.Coherent)
  (named : context.IsNamed) (known : context.repository.table? table.name = some table)
  (fits : plan.Fits table)

include coherent named known fits

/-- What the statement for the new row returns is rendered if the trees only require columns. -/
theorem renders_returning {returning : List Projection}
    (returned : plan.Returning context table select? include? returning)
    (required : ((select?.isSome || include?.isSome) && !plan.isSingle) = true →
      ∀ column ∈ requiredColumns select? include? table, table.schema.contains column = true) :
    ∀ column ∈ returning, column.Renders := by
  unfold Returning at returned
  by_cases hsingle : plan.isSingle = true
  · by_cases hprojected : (select?.isSome || include?.isSome) = true
    · rw [hsingle, hprojected, Bool.and_self, if_pos rfl] at returned
      obtain ⟨_, _, hcolumns⟩ := returned
      exact ProjectionContext.renders_of_projections coherent named hcolumns
        (named.tables.of_table? known)
    · rw [if_neg (by simp [hprojected]), if_pos hsingle] at returned
      rw [returned]
      exact List.forall_mem_nil _
  · rw [if_neg (by simp [hsingle]), if_neg hsingle] at returned
    rw [returned, List.forall_mem_map]
    intro column hcolumn
    have hcontains : table.schema.contains column = true := by
      rcases mem_returnedColumns.1 hcolumn with ⟨row, hrow, rfl⟩ | ⟨hprojected, hcolumn⟩
      · have hrelation := (fits.children row hrow).relation
        exact (coherent _ _ known _ (Table.mem_of_relation? hrelation)).target
      · exact required (by simp [hprojected, hsingle]) column hcolumn
    exact Projection.renders_column ((named.tables _ _ known).columns column hcontains)

/-- The chain of a plan that fits is rendered. -/
theorem succeeds_chain {chain : Chain} {a b : Aliases}
    (compiled : Returns (plan.chain context table select? include?) a chain b) :
    Succeeds chain.tokens := by
  have hrelations : ∀ rows ∈ plan.created context.config.chainStem,
      table.relation? rows.relation.name = some rows.relation :=
    fun _ => relation?_of_mem_created fits
  obtain ⟨returning, selections, rfl, hreturning, hselected⟩ := chain_cases compiled
  have hreturned : ∀ column ∈ returning, column.Renders := by
    refine renders_returning coherent named known fits hreturning fun hprojected => ?_
    rw [if_pos hprojected] at hselected
    obtain ⟨select, _, _, hselect, -⟩ := hselected
    exact contains_requiredColumns_of_createdSelect coherent known hrelations hselect
  have hselections : ∀ statement ∈ selections, Succeeds statement.tokens := by
    split at hselected
    · obtain ⟨select, _, _, hselect, rfl⟩ := hselected
      rw [List.forall_mem_singleton]
      exact succeeds_createdSelect coherent named known hrelations
        (isName_of_mem_created named.chain) (Sql.isName_numberedName named.chain _) hselect
    · rw [hselected]
      exact List.forall_mem_nil _
  refine (Sql.Chain.succeeds_tokens named.chain).2 ⟨by simp, ?_⟩
  rw [List.forall_mem_append, List.forall_mem_append, List.forall_mem_cons, List.forall_mem_map,
    List.forall_mem_map]
  refine ⟨⟨?_, ?_, ?_⟩, hselections⟩
  · exact fun row => succeeds_parentStatement coherent named.tables known fits
  · exact succeeds_ownStatement coherent named.tables known fits named.chain hreturned
  · exact fun row => succeeds_childStatement coherent named.tables known fits named.chain

end

end InsertPlan

/-! ## Statements of updates -/

namespace AlterationPlan

variable {plan : AlterationPlan} {table : Table} {select? include? : Option Json}

/-- A step changes at least one column. -/
theorem assignments_ne_nil {data : Members}
    (write : List.Forall₂ (AlterationStep.Writes data)
      (table.relations.filter (·.changesRows data)) plan.steps) :
    ∀ step ∈ plan.steps, step.assignments ≠ [] := by
  intro step hstep
  obtain ⟨relation, hrelation, hwrites⟩ := exists_mem_of_forall₂ write hstep
  have hdata := Relation.relatedData_ne_nil_iff.2 (List.mem_filter.1 hrelation).2
  exact fun hnil => hdata (hwrites.write.eq_nil_iff.1 hnil)

/-- Assignments that fit are rendered if the columns of the table and its qualifier have names. -/
theorem succeeds_assignments {assignments : List Assignment} {schema : ObjectSchema}
    {qualifier? : Option String}
    (fits : ∀ assignment ∈ assignments, assignment.Fits schema qualifier?)
    (columns : ∀ column, schema.contains column = true → IsName column)
    (qualified : ∀ qualifier ∈ qualifier?, IsName qualifier) :
    ∀ assignment ∈ assignments, assignment.target.IsNamed ∧ Succeeds assignment.value.tokens := by
  intro assignment hassignment
  obtain ⟨hplain, hcontains, hvalue⟩ := fits assignment hassignment
  have hname := columns _ hcontains
  exact ⟨⟨by simp [hplain], hname⟩, hvalue.succeeds_tokens qualified hname⟩

section

variable {context : ProjectionContext} (coherent : context.repository.Coherent)
  (named : context.IsNamed) (known : context.repository.table? table.name = some table)
  (fits : plan.Fits table)

include named known

/-- The statement for the rows of the table is rendered, whether it changes or only selects them. -/
theorem succeeds_ownStatement
    (fits : ∀ assignment ∈ plan.own, assignment.Fits table.schema none)
    {condition? : Option Condition}
    (hcondition : ∀ condition ∈ condition?, Succeeds condition.conjuncts)
    {returning : List Projection} (returned : ∀ column ∈ returning, column.Renders) :
    Succeeds (plan.ownStatement table.name condition? returning).tokens := by
  have hname := named.tables.of_table? known
  unfold ownStatement
  split
  · refine (Select.succeeds_table rfl ?_ hcondition (List.forall_mem_nil _)).2 hname
    simp only [Select.ofColumns]
    split
    · exact List.forall_mem_singleton.2 (Projection.renders_raw "1")
    · exact returned
  · rename_i hown
    refine (Sql.Update.succeeds_tokens fun hnil => hown (List.isEmpty_iff.2 hnil)).2 ?_
    refine ⟨hname, ?_, ?_, hcondition, returned⟩
    · exact succeeds_assignments fits (named.tables _ _ known).columns (by simp)
    · rw [Sql.Update.allSources, sources_of_fits fits]
      exact List.forall_mem_nil _

include coherent fits

/-- The statement for the related rows of a step is rendered. -/
theorem succeeds_stepStatement {main : String} (mainNamed : IsName main) {step : AlterationStep}
    (hstep : step ∈ plan.steps) (nonempty : step.assignments ≠ []) :
    Succeeds (stepStatement main step).tokens := by
  have hcoherent := coherent _ _ known _ (fits.relations step hstep)
  have hcolumns : ∀ column, step.relation.relatedSchema.contains column = true → IsName column :=
    fun _ => named.tables.of_relatedSchema hcoherent
  have hname := named.tables.of_relatedTable hcoherent
  have hjoin : Succeeds (Condition.equal
      (.column (.qualified step.relation.relatedTable step.relation.sourceColumn))
      (.reference main step.relation.targetColumn)).conjuncts := by
    have htarget := (named.tables _ _ known).columns _ hcoherent.target
    rw [Condition.equal, Condition.conjuncts, succeeds_bind_iff fun _ => succeeds_bind_pure,
      Expr.tokens, Expr.tokens, Sql.ColumnRef.succeeds_tokens, Sql.succeeds_qualifiedTokens]
    refine ⟨⟨?_, hcolumns _ hcoherent.source⟩, ?_, htarget⟩
    · rintro _ ⟨⟩
      exact hname
    · rintro _ ⟨⟩
      exact mainNamed
  refine (Sql.Update.succeeds_tokens nonempty).2 ?_
  refine ⟨hname, ?_, ?_, ?_, List.forall_mem_nil _⟩
  · refine succeeds_assignments (fits.steps step hstep) hcolumns ?_
    rintro _ ⟨⟩
    exact hname
  · rw [Sql.Update.allSources, sources_of_fits (fits.steps step hstep)]
    exact List.forall_mem_singleton.2 mainNamed
  · rintro _ ⟨⟩
    exact hjoin

/-- What the statement for the rows of the table returns is rendered if the trees only require
columns. -/
theorem renders_returning {returning : List Projection} {a b : Aliases}
    (compiled : Returns (plan.returning context table select? include?) a returning b)
    (required : (!plan.steps.isEmpty && (select?.isSome || include?.isSome)) = true →
      ∀ column ∈ requiredColumns select? include? table, table.schema.contains column = true) :
    ∀ column ∈ returning, column.Renders := by
  rcases returning_cases compiled with ⟨hsteps, rfl⟩ | ⟨-, -, hcolumns⟩ | ⟨-, -, rfl⟩
  · rw [List.forall_mem_map]
    intro column hcolumn
    have hcontains : table.schema.contains column = true := by
      rcases mem_carriedColumns.1 hcolumn with ⟨step, hstep, rfl⟩ | ⟨hprojected, hcolumn⟩
      · exact (coherent _ _ known _ (fits.relations step hstep)).target
      · exact required (by simp [hsteps, hprojected]) column hcolumn
    exact Projection.renders_column ((named.tables _ _ known).columns column hcontains)
  · exact ProjectionContext.renders_of_projections coherent named hcolumns
      (named.tables.of_table? known)
  · exact List.forall_mem_nil _

/-- The chain of a plan that fits is rendered. -/
theorem succeeds_chain {data : Members}
    (write : List.Forall₂ (AlterationStep.Writes data)
      (table.relations.filter (·.changesRows data)) plan.steps)
    {filter? : Option Json} {chain : Chain} {s t : Progress}
    (compiled : Returns (plan.chain context table filter? select? include?) s chain t) :
    Succeeds chain.tokens := by
  obtain ⟨condition?, _, returning, _, _, hcondition, hreturning, -, hchainOf⟩ :=
    chain_steps compiled
  obtain ⟨selections, rfl, hselected⟩ := chainOf_cases hchainOf
  have hmain := Sql.isName_numberedName named.chain 0
  have hreturned : ∀ column ∈ returning, column.Renders := by
    refine renders_returning coherent named known fits hreturning fun hprojected => ?_
    rw [if_pos hprojected] at hselected
    obtain ⟨columns, _, _, hcolumns, -⟩ := hselected
    exact context.contains_requiredColumns coherent hcolumns known
  have hselections : ∀ statement ∈ selections, Succeeds statement.tokens := by
    split at hselected
    · obtain ⟨columns, _, _, hcolumns, rfl⟩ := hselected
      rw [List.forall_mem_singleton]
      have hrendered := ProjectionContext.renders_of_projections coherent named hcolumns hmain
      exact (Select.succeeds_table rfl hrendered (by simp [Select.ofColumns])
        (List.forall_mem_nil _)).2 hmain
    · rw [hselected]
      exact List.forall_mem_nil _
  refine (Sql.Chain.succeeds_tokens named.chain).2 ⟨by simp, ?_⟩
  rw [List.forall_mem_append, List.forall_mem_cons, List.forall_mem_map]
  refine ⟨⟨?_, ?_⟩, hselections⟩
  · exact succeeds_ownStatement named known fits.own
      (ProjectionContext.succeeds_conditionOn? coherent named hcondition (by simp)) hreturned
  · exact fun step hstep => succeeds_stepStatement coherent named known fits hmain hstep
      (assignments_ne_nil write step hstep)

end

end AlterationPlan

/-! ## Single statements -/

namespace ProjectionContext

variable {context : ProjectionContext} {table : String} {a b : Aliases}

/-- A filter is compiled for a table that is known. -/
theorem known_of_conditionOn? {filter? : Option Json} {scope? : Option String}
    {condition? : Option Condition}
    (compiled : Returns (context.conditionOn? filter? table scope?) a condition? b)
    (given : filter?.isSome = true) : ∃ info, context.repository.table? table = some info := by
  obtain ⟨filter, rfl⟩ := Option.isSome_iff_exists.1 given
  simp only [conditionOn?, FilterContext.conditionOn, returns_inFilters, returns_bind,
    returns_monadLift] at compiled
  obtain ⟨_, ⟨info, _, ⟨hknown, -⟩, -⟩, -⟩ := compiled
  exact ⟨info, Repository.table_eq_ok_iff.1 hknown⟩

variable (coherent : context.repository.Coherent) (named : context.IsNamed)

include coherent named

/-- A compiled selection looks its table up, and is rendered exactly if this has a name. -/
theorem succeeds_select {query : SelectQuery} {select : Select}
    (compiled : Returns (context.select table query) a select b) :
    (∃ info, context.repository.table? table = some info) ∧
      (Succeeds select.tokens ↔ IsName table) := by
  obtain ⟨info, columns, condition?, order, _, hknown, hcolumns, hcondition, horder, rfl⟩ :=
    select_cases compiled
  have hname := named.tables.of_table? hknown
  have honly : ∀ scope ∈ some table, IsName scope := by
    rintro _ ⟨⟩
    exact hname
  refine ⟨⟨info, hknown⟩, Select.succeeds_table rfl ?_ ?_ ?_⟩
  · exact renders_of_projections coherent named hcolumns hname
  · exact succeeds_conditionOn? coherent named hcondition honly
  · exact succeeds_orderTerms horder (named.tables _ _ hknown) honly

/-- So it is with a count that has a filter. -/
theorem succeeds_count {query : CountQuery} {select : Select}
    (compiled : Returns (context.count table query) a select b) :
    (query.filter?.isSome = true → ∃ info, context.repository.table? table = some info) ∧
      (Succeeds select.tokens ↔ IsName table) := by
  obtain ⟨condition?, hcondition, rfl⟩ := count_cases compiled
  refine ⟨known_of_conditionOn? hcondition, Select.succeeds_table rfl ?_ ?_ ?_⟩
  · refine List.forall_mem_singleton.2 ⟨(Projection.renders_raw _).1, ?_⟩
    rintro _ ⟨⟩
    decide
  · exact succeeds_conditionOn? coherent named hcondition (by simp)
  · exact List.forall_mem_nil _

/-- So it is with a delete that has a filter or trees. -/
theorem succeeds_delete {query : DeleteQuery} {delete : Delete}
    (compiled : Returns (context.delete table query) a delete b) :
    ((query.filter?.isSome || query.select?.isSome || query.include?.isSome) = true →
        ∃ info, context.repository.table? table = some info) ∧
      (Succeeds delete.tokens ↔ IsName table) := by
  obtain ⟨condition?, returning, _, hcondition, hreturning, rfl⟩ := delete_cases compiled
  have hfilter := succeeds_conditionOn? coherent named hcondition (by simp)
  by_cases hprojected : (query.select?.isSome || query.include?.isSome) = true
  · rw [if_pos hprojected] at hreturning
    obtain ⟨info, _, hknown, -⟩ := derives_of_projections hreturning
    have hname := named.tables.of_table? hknown
    have hrendered := renders_of_projections coherent named hreturning hname
    refine ⟨fun _ => ⟨info, hknown⟩, ?_⟩
    exact iff_of_true (Sql.Delete.succeeds_tokens.2 ⟨hname, hfilter, hrendered⟩) hname
  · rw [if_neg hprojected] at hreturning
    subst hreturning
    rw [Bool.not_eq_true] at hprojected
    rw [Bool.or_assoc, hprojected, Bool.or_false]
    refine ⟨known_of_conditionOn? hcondition, ?_⟩
    rw [Sql.Delete.succeeds_tokens]
    exact ⟨And.left, fun hname => ⟨hname, hfilter, List.forall_mem_nil _⟩⟩

end ProjectionContext

/-! ## Compiled queries -/

/-- The query looks up its table: all queries do but deletes and counts without any trees. -/
def Query.looksUpTable : Query → Bool
  | .insert _ | .update _ | .select _ | .findOne _ => true
  | .delete query => query.filter?.isSome || query.select?.isSome || query.include?.isSome
  | .count query => query.filter?.isSome

namespace WriteContext

variable {context : WriteContext} {table : String} {query : Query} {chain : Chain} {s t : Progress}

/-- A single statement is rendered in a chain exactly if it is rendered. -/
theorem succeeds_single {stem : String} {statement : Statement} {table : String}
    (stemmed : stem.toList.contains Sql.nul = false)
    (h : Succeeds statement.tokens ↔ IsName table) :
    Succeeds (Chain.single stem statement).tokens ↔ IsName table := by
  rw [← h, Chain.single, Sql.Chain.succeeds_tokens stemmed, List.forall_mem_singleton]
  exact and_iff_right (List.cons_ne_nil _ _)

/-- The compiled chain of a query is rendered exactly if the table has a name, and a query that
looks up its table finds it. -/
theorem succeeds_chain (coherent : context.repository.Coherent)
    (named : context.projection.IsNamed) (compiled : Returns (context.chain table query) s chain t) :
    (query.looksUpTable = true → ∃ info, context.repository.table? table = some info) ∧
      (Succeeds chain.tokens ↔ IsName table) := by
  have hcoherent : context.projection.repository.Coherent := coherent
  cases query with
  | insert query =>
    obtain ⟨info, members, plan, _, _, _, hknown, -, hplan, hchain⟩ := plan_of_insert compiled
    have hself : context.projection.repository.table? info.name = some info :=
      Repository.table?_self hknown
    refine ⟨fun _ => ⟨info, hknown⟩, iff_of_true ?_ (named.tables.of_table? hknown)⟩
    exact InsertPlan.succeeds_chain hcoherent named hself (insertPlan_fits hplan) hchain
  | update query =>
    obtain ⟨info, members, plan, _, hknown, -, hplan, hchain⟩ := plan_of_update compiled
    have hself : context.projection.repository.table? info.name = some info :=
      Repository.table?_self hknown
    refine ⟨fun _ => ⟨info, hknown⟩, iff_of_true ?_ (named.tables.of_table? hknown)⟩
    exact AlterationPlan.succeeds_chain hcoherent named hself (alterationPlan_fits hplan)
      (alterationPlan_writes hplan).2.1 hchain
  | select query | findOne query =>
    obtain ⟨select, _, _, hselect, rfl⟩ := single_cases compiled
    obtain ⟨hknown, hrendered⟩ := ProjectionContext.succeeds_select hcoherent named hselect
    exact ⟨fun _ => hknown, succeeds_single named.chain hrendered⟩
  | delete query =>
    obtain ⟨delete, _, _, hdelete, rfl⟩ := single_cases compiled
    obtain ⟨hknown, hrendered⟩ := ProjectionContext.succeeds_delete hcoherent named hdelete
    exact ⟨hknown, succeeds_single named.chain hrendered⟩
  | count query =>
    obtain ⟨select, _, _, hselect, rfl⟩ := single_cases compiled
    obtain ⟨hknown, hrendered⟩ := ProjectionContext.succeeds_count hcoherent named hselect
    exact ⟨hknown, succeeds_single named.chain hrendered⟩

/-- A query is compiled after its statements exactly if these are rendered. -/
theorem returns_compile_iff (compiled : Returns (context.chain table query) s chain t) :
    (∃ result next, Returns (context.compile table query) s result next) ↔
      Succeeds chain.tokens := by
  constructor
  · rintro ⟨_, _, hcompiled⟩
    obtain ⟨other, tokens, _, hother, htokens, -⟩ := compile_cases hcompiled
    obtain ⟨hsame, -⟩ := Prod.mk.inj (hother.symm.trans compiled)
    rw [Except.ok.inj hsame] at htokens
    exact ⟨tokens, htokens⟩
  · rintro ⟨tokens, htokens⟩
    exact ⟨_, compiles_of_chain compiled htokens⟩

/-- Compiled statements are rendered if the tables, the columns and the relations have names and the
query looks up its table; and a query that does not is rendered exactly if its table has a name. -/
theorem rendered_iff (accepted : context.repository.Accepted)
    (named : context.projection.IsNamed)
    (compiled : Returns (context.chain table query) s chain t) :
    (query.looksUpTable = true → Succeeds chain.tokens) ∧
      (Succeeds chain.tokens ↔ IsName table) ∧
      ((∃ result next, Returns (context.compile table query) s result next) ↔ IsName table) := by
  obtain ⟨hknown, hrendered⟩ := succeeds_chain accepted.coherent named compiled
  refine ⟨fun hlooksUp => ?_, hrendered, (returns_compile_iff compiled).trans hrendered⟩
  obtain ⟨info, hinfo⟩ := hknown hlooksUp
  exact hrendered.2 (named.tables.of_table? hinfo)

end WriteContext

/-! ## Queries without trees -/

namespace Library

/-- Everything that the library declares has a name, and so has every statement and subquery. -/
theorem named : writes.projection.IsNamed where
  tables := by
    intro name table hname
    rcases table?_cases hname with ⟨-, rfl⟩ | ⟨-, rfl⟩
    · refine ⟨by decide, fun column hcolumn => ?_, by decide⟩
      have hcolumns : ∀ column ∈ authorSchema.columns, IsName column := by decide
      exact hcolumns column (ObjectSchema.contains_iff.1 hcolumn)
    · refine ⟨by decide, fun column hcolumn => ?_, by decide⟩
      have hcolumns : ∀ column ∈ bookSchema.columns, IsName column := by decide
      exact hcolumns column (ObjectSchema.contains_iff.1 hcolumn)
  chain := by decide
  projection := by decide
  filter := by decide

end Library

namespace WriteContext

/-- The statements for a new author with a book are rendered. -/
theorem rendered_iff_library : ∃ chain next,
    Returns (Library.writes.chain "author" (.insert Library.newAuthor)) Progress.start chain next ∧
      (Query.looksUpTable (.insert Library.newAuthor) = true → Succeeds chain.tokens) ∧
      (Succeeds chain.tokens ↔ IsName "author") ∧
      ((∃ result last, Returns (Library.writes.compile "author" (.insert Library.newAuthor))
        Progress.start result last) ↔ IsName "author") := by
  have hchain : Returns (Library.writes.chain "author" (.insert Library.newAuthor)) Progress.start
    _ _ := rfl
  have haccepted : Library.writes.repository.Accepted := Library.accepted
  exact ⟨_, _, hchain, rendered_iff haccepted Library.named hchain⟩

/-- A delete without trees takes a text that names no table, and fails only when its statement is
rendered; a selection looks the table up and reports that it is not known. -/
theorem delete_not_rendered : Library.writes.repository.Accepted ∧
    Library.writes.projection.IsNamed ∧
    Returns (Library.writes.chain "" (.delete ⟨none, none, none⟩)) Progress.start
      (.single "R" (.delete ⟨some "", none, []⟩)) Progress.start ∧
    (Library.writes.run "" (.delete ⟨none, none, none⟩)).1 =
      .error (.structural .emptyIdentifier) ∧
    (Library.writes.run "" (.select .all)).1 = .error (.unknownTable "") :=
  ⟨Library.accepted, Library.named, rfl, rfl, rfl⟩

end WriteContext

end RelationalQuery
