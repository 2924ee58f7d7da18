import RelationalQuery.Proofs.Projection.Shadows
import RelationalQuery.Proofs.Query.WellScoped
import RelationalQuery.Proofs.Query.WriteSet

/-!
# Names that compiled queries shadow

The subqueries of a query are named by two counters, the statements of its chain by a third, and the
rows of a statement also by their table.  Nothing keeps the four kinds of names apart: the stems are
settings, and tables have any name.  This module says exactly which names a subquery can hide, and
that there are none if the kinds of names are apart.

Main definitions:

- `Config.IsAmbiguous` says that a name stands for rows of two kinds.

Main results:

- `WriteContext.shadows_isAmbiguous`: only ambiguous names are hidden, and none if tables,
  statements and subqueries are named apart.
- `WriteContext.shadows_of_same_stem`: with one stem for both counters a filter hides the rows that it
  should be joined to.
-/

namespace RelationalQuery

open Sql (Assignment Chain Condition Delete Expr FromItem Projection Record Select Statement)

/-! ## Ambiguous names -/

/-- A name is handed out by both counters of subqueries, or by one of them although it names a table
or a statement. -/
def Config.IsAmbiguous (config : Config) (repository : Repository) (name : String) : Prop :=
  InFamily config.projectionStem name ∧ InFamily config.filterStem name ∨
    ((repository.table? name).isSome = true ∨ InFamily config.chainStem name) ∧
      (InFamily config.projectionStem name ∨ InFamily config.filterStem name)

/-- No name is ambiguous if tables, statements and subqueries are named apart. -/
theorem Config.Apart.not_isAmbiguous {config : Config} {repository : Repository}
    (apart : config.Apart repository) (name : String) : ¬ config.IsAmbiguous repository name := by
  rintro (⟨hprojection, hfilter⟩ | ⟨hrows, hcounter⟩)
  · exact apart.projectionFilter name hprojection hfilter
  · rcases hrows with htable | hchain
    · obtain ⟨table, htable⟩ := Option.isSome_iff_exists.1 htable
      obtain ⟨-, hprojection, hfilter⟩ := apart.tables name table htable
      exact hcounter.elim hprojection hfilter
    · exact hcounter.elim (apart.chainProjection name hchain) (apart.chainFilter name hchain)

namespace ProjectionContext

variable {context : ProjectionContext} {table scope name : String}
  {select? include? filter? : Option Json} {a b : Aliases}

/-- What the trees of a statement can hide is ambiguous, as the rows of the statement are named by a
table or by a statement. -/
theorem Hides.isAmbiguous {outer : List String} {index : Nat} (h : context.Hides outer index name)
    (rows : ∀ row ∈ outer, (context.repository.table? row).isSome = true ∨
      InFamily context.config.chainStem row) :
    context.config.IsAmbiguous context.repository name := by
  rcases h with hboth | ⟨houter, hmade⟩
  · exact .inl hboth
  · exact .inr ⟨rows name houter, hmade.imp_left inFamily_of_not_freshFrom⟩

/-- The output columns of a statement hide ambiguous names only. -/
theorem isAmbiguous_of_projections {columns : List Projection}
    (compiled : Returns (context.projections select? include? table scope) a columns b)
    (rows : scope = table ∨ InFamily context.config.chainStem scope)
    (hidden : name ∈ Projection.listShadows [scope] columns) :
    context.config.IsAmbiguous context.repository name := by
  obtain ⟨info, fields, hinfo, rfl, derives⟩ := derives_of_projections compiled
  obtain ⟨column, hcolumn, hidden⟩ := Projection.mem_listShadows.1 hidden
  obtain ⟨field, hfield, rfl⟩ := List.mem_map.1 hcolumn
  rw [expr_outputColumn] at hidden
  refine (derives.shadows hfield hidden).isAmbiguous ?_
  rw [List.forall_mem_singleton]
  refine rows.imp_left ?_
  rintro rfl
  rw [hinfo]
  rfl

/-- The condition of a statement on the rows of a table hides ambiguous names only. -/
theorem isAmbiguous_of_conditionOn? {scope? : Option String} {condition? : Option Condition}
    (compiled : Returns (context.conditionOn? filter? table scope?) a condition? b)
    (hidden : name ∈ Condition.clauseShadows [table] condition?) :
    context.config.IsAmbiguous context.repository name := by
  cases filter? with
  | none =>
    rw [conditionOn?, returns_pure] at compiled
    rw [compiled.1] at hidden
    cases hidden
  | some filter =>
    simp only [conditionOn?, FilterContext.conditionOn, returns_inFilters, returns_bind,
      returns_monadLift] at compiled
    obtain ⟨_, ⟨info, _, ⟨hinfo, rfl⟩, compiled⟩, -⟩ := compiled
    obtain ⟨members, conditions, -, rfl, derives⟩ := FilterContext.derives_of_condition compiled
    rw [Condition.clauseShadows_all] at hidden
    obtain ⟨hname, hfresh⟩ := derives.shadows hidden
    obtain rfl := List.mem_singleton.1 hname
    have hknown : context.repository.table? name = some info := Repository.table_eq_ok_iff.1 hinfo
    refine .inr ⟨.inl ?_, .inr (inFamily_of_not_freshFrom hfresh)⟩
    rw [hknown]
    rfl

end ProjectionContext

/-! ## Written values -/

namespace Sql

variable {name table : String} {outer : List String} {returning : List Projection}

/-- The values of a record that fits a schema hide nothing. -/
theorem Record.Fits.shadows_eq_nil {record : Record} {schema : ObjectSchema}
    (h : record.Fits schema) : ∀ entry ∈ record.entries, ∀ outer, entry.2.shadows outer = [] := by
  intro entry hentry
  have honColumn : entry.2.OnColumn none entry.1 := (h entry hentry).2.onColumn
  exact honColumn.shadows_eq_nil

/-- Columns hide no names. -/
theorem Projection.listShadows_column (outer columns : List String) :
    Projection.listShadows outer (columns.map Projection.column) = [] := by
  induction columns with
  | nil => rw [List.map_nil, Projection.listShadows]
  | cons column rest ih =>
    rw [List.map_cons, Projection.column, Projection.plain, Projection.listShadows, ih, Expr.shadows]
    rfl

/-- A new row whose values hide nothing is inserted by a statement that hides what its output columns
hide. -/
theorem Statement.mem_shadows_insert {record : Record}
    (plain : ∀ entry ∈ record.entries, ∀ outer, entry.2.shadows outer = []) :
    name ∈ (Statement.insert ⟨some table, some record, returning⟩).shadows ↔
      name ∈ Projection.listShadows [table] returning := by
  have hvalues : ∀ outer, name ∉ Expr.entryShadows outer record.entries := by
    intro outer hmem
    obtain ⟨entry, hentry, hmem⟩ := Expr.mem_entryShadows.1 hmem
    rw [plain entry hentry] at hmem
    cases hmem
  simp [Statement.shadows, hvalues]

/-- A selection from the rows of a table hides what its columns and its condition hide. -/
theorem Select.mem_shadows_table {select : Select} (rows : select.from? = some (.table table none))
    (plain : ∀ term ∈ select.order, ∀ outer, term.expr.shadows outer = []) :
    name ∈ select.shadows [] ↔ name ∈ Projection.listShadows [table] select.columns ∨
      name ∈ Condition.clauseShadows [table] select.where? := by
  obtain ⟨columns, _, condition?, order, _, _⟩ := select
  obtain rfl := rows
  have horder : name ∉ OrderTerm.listShadows [table] order := by
    intro hmem
    obtain ⟨term, hterm, hmem⟩ := OrderTerm.mem_listShadows.1 hmem
    rw [plain term hterm] at hmem
    cases hmem
  simp [Select.shadows, FromItem.clauseShadows, FromItem.scope, horder]

end Sql

/-! ## Statements of updates -/

namespace AlterationPlan

variable {plan : AlterationPlan} {table name : String}

/-- Assignments that fit hide nothing. -/
theorem shadows_of_fits {assignments : List Assignment} {schema : ObjectSchema}
    {qualifier? : Option String}
    (fits : ∀ assignment ∈ assignments, assignment.Fits schema qualifier?) (outer : List String) :
    (assignments.flatMap fun assignment => assignment.value.shadows outer) = [] := by
  rw [List.flatMap_eq_nil_iff]
  intro assignment hassignment
  exact (fits assignment hassignment).value.shadows_eq_nil outer

/-- The statement for the rows of the table hides what its condition and its output columns hide. -/
theorem shadows_ownStatement {info : Table} (fits : plan.Fits info)
    {condition? : Option Condition} {returning : List Projection}
    (hidden : name ∈ (plan.ownStatement table condition? returning).shadows) :
    name ∈ Condition.clauseShadows [table] condition? ∨
      name ∈ Projection.listShadows [table] returning := by
  unfold ownStatement at hidden
  split at hidden
  · rcases (Select.mem_shadows_table rfl (List.forall_mem_nil _)).1 hidden with hidden | hidden
    · right
      simp only [Select.ofColumns] at hidden
      split at hidden
      · cases hidden
      · exact hidden
    · exact .inl hidden
  · simp only [Statement.shadows, Sql.Update.allSources, sources_of_fits fits.own,
      shadows_of_fits fits.own, List.nil_append, List.mem_append] at hidden
    exact hidden

/-- The statement for related rows hides nothing. -/
theorem shadows_stepStatement {info : Table} (fits : plan.Fits info) {step : AlterationStep}
    (mem : step ∈ plan.steps) (main : String) : (stepStatement main step).shadows = [] := by
  simp only [stepStatement, Statement.shadows, shadows_of_fits (fits.steps step mem),
    Condition.clauseShadows, Condition.equal, Condition.shadows, Expr.shadows,
    Projection.listShadows, List.append_nil]

/-- What the statement for the rows of the table returns hides ambiguous names only. -/
theorem isAmbiguous_of_returning {context : ProjectionContext} {info : Table}
    {select? include? : Option Json} {returning : List Projection} {a b : Aliases}
    (compiled : Returns (plan.returning context info select? include?) a returning b)
    (hidden : name ∈ Projection.listShadows [info.name] returning) :
    context.config.IsAmbiguous context.repository name := by
  rcases returning_cases compiled with ⟨-, rfl⟩ | ⟨-, -, hcolumns⟩ | ⟨-, -, rfl⟩
  · rw [Projection.listShadows_column] at hidden
    cases hidden
  · exact ProjectionContext.isAmbiguous_of_projections hcolumns (.inl rfl) hidden
  · cases hidden

end AlterationPlan

/-! ## Selections of created rows -/

section

variable {context : ProjectionContext} {name : String} {a b : Aliases}

/-- The rows of the statements that created them have the alias as their only name. -/
theorem CreatedRows.isFlat_rows (created : CreatedRows) (label : String) :
    (created.rows label).IsFlat ∧ (created.rows label).scope = label := by
  unfold rows
  split
  · exact ⟨fun _ => rfl, rfl⟩
  · exact ⟨fun _ => rfl, rfl⟩

/-- The subquery over created rows hides what the trees of a relation can hide. -/
theorem CreatedRows.shadows {created : CreatedRows} {selection? included? : Option Json}
    {path : String} {value : Expr} {outer : List String}
    (compiled : Returns (created.expr context selection? included? path) a value b)
    (hidden : name ∈ value.shadows outer) : context.Hides outer a.projections name := by
  obtain ⟨related, object, condition?, order, c, m, orderPath, -, derives, filter, ordered, rfl⟩ :=
    expr_eq_of_returns compiled
  obtain ⟨hflat, hscope⟩ :=
    created.isFlat_rows (numberedName context.config.projectionStem a.projections)
  have hplain : ∀ term ∈ order, ∀ outer, term.expr.shadows outer = [] := by
    rcases ordered with rfl | ordered
    · exact List.forall_mem_nil _
    · exact shadows_orderTerms ordered
  rw [Expr.shadows, mem_shadows_relatedSelect hflat hplain, hscope, Expr.shadows,
    Expr.mem_entryShadows] at hidden
  rcases hidden with ⟨houter, rfl⟩ | ⟨entry, hentry, hidden⟩ | hidden
  · exact .inr ⟨houter, .inl fun hfresh => hfresh a.projections (Nat.le_refl _) rfl⟩
  · exact (derives.shadows hentry hidden).of_inside
  · obtain ⟨hmem, hfamily⟩ := filter.shadows hidden
    exact ProjectionContext.Hides.of_inside (.inr ⟨hmem, .inr hfamily⟩)

/-- The selection after an insert hides ambiguous names only. -/
theorem isAmbiguous_of_createdSelect {table : Table} {parent : String}
    {created : List CreatedRows} {select? include? : Option Json} {select : Select}
    (compiled : Returns (createdSelect context table parent created select? include?) a select b)
    (statement : InFamily context.config.chainStem parent) (hidden : name ∈ select.shadows []) :
    context.config.IsAmbiguous context.repository name := by
  simp only [createdSelect, returns_bind, returns_pure] at compiled
  obtain ⟨columns, _, hcolumns, relations, _, hrelations, rfl, rfl⟩ := compiled
  rcases (Select.mem_shadows_table rfl (List.forall_mem_nil _)).1 hidden with hidden | hidden
  · obtain ⟨column, hcolumn, hidden⟩ := Projection.mem_listShadows.1 hidden
    rcases List.mem_append.1 hcolumn with hcolumn | hcolumn
    · exact ProjectionContext.isAmbiguous_of_projections hcolumns (.inr statement)
        (Projection.mem_listShadows.2 ⟨column, hcolumn, hidden⟩)
    · have hmade : ∀ column ∈ relations, name ∈ column.expr.shadows [parent] →
          context.config.IsAmbiguous context.repository name := by
        refine forall_of_returns_mapM hrelations ?_
        intro rows _ s column t hcolumn hidden
        simp only [returns_bind, returns_pure] at hcolumn
        obtain ⟨value, _, hvalue, rfl, rfl⟩ := hcolumn
        refine (CreatedRows.shadows hvalue hidden).isAmbiguous ?_
        rw [List.forall_mem_singleton]
        exact .inr statement
      exact hmade column hcolumn hidden
  · cases hidden

/-! ## Statements of inserts -/

namespace InsertPlan

variable {plan : InsertPlan} {table : Table} {stem : String} {select? include? : Option Json}

/-- A statement for a related row returns all columns or some of them, and hides nothing. -/
theorem not_mem_shadows_parentStatement {row : NewRow} (fits : row.Fits table) :
    name ∉ (parentStatement select? include? row).shadows := by
  intro hidden
  have hreturning := (Statement.mem_shadows_insert fits.record.shadows_eq_nil).1 hidden
  split at hreturning
  · cases hreturning
  · cases hreturning

/-- A statement for a created row hides no names. -/
theorem not_mem_shadows_childStatement {row : NewRow} (fits : row.Fits table) :
    name ∉ (plan.childStatement stem select? include? row).shadows := by
  intro hidden
  have hplain : ∀ entry ∈ (plan.childRecord stem row).entries, ∀ outer,
      entry.2.shadows outer = [] := by
    intro entry hentry outer
    rcases Record.mem_set hentry with rfl | hold
    · rw [Expr.shadows]
    · exact fits.record.shadows_eq_nil entry hold outer
  have hreturning := (Statement.mem_shadows_insert hplain).1 hidden
  split at hreturning
  · cases hreturning
  · cases hreturning

/-- The statement for the new row hides what its output columns hide. -/
theorem mem_shadows_ownStatement (fits : plan.Fits table) {returning : List Projection} :
    name ∈ (plan.ownStatement stem table returning).shadows ↔
      name ∈ Projection.listShadows [table.name] returning := by
  refine Statement.mem_shadows_insert ?_
  intro entry hentry outer
  rcases Record.mem_setAll hentry with hlink | hown
  · obtain ⟨row, -, rfl⟩ := List.mem_map.1 hlink
    rw [Expr.shadows]
  · exact fits.own.shadows_eq_nil entry hown outer

/-- The chain of a plan that fits hides ambiguous names only. -/
theorem isAmbiguous_of_chain {chain : Chain} (fits : plan.Fits table)
    (compiled : Returns (plan.chain context table select? include?) a chain b)
    {statement : Statement} (mem : statement ∈ chain.statements)
    (hidden : name ∈ statement.shadows) :
    context.config.IsAmbiguous context.repository name := by
  obtain ⟨returning, selections, rfl, hreturning, hselected⟩ := chain_cases compiled
  rw [List.append_assoc, List.mem_append, List.cons_append, List.mem_cons, List.mem_append,
    List.mem_map, List.mem_map] at mem
  rcases mem with ⟨row, hrow, rfl⟩ | rfl | ⟨row, hrow, rfl⟩ | hselection
  · exact absurd hidden (not_mem_shadows_parentStatement (fits.parents row hrow))
  · rw [mem_shadows_ownStatement fits] at hidden
    unfold Returning at hreturning
    split at hreturning
    · obtain ⟨_, _, hreturning⟩ := hreturning
      exact ProjectionContext.isAmbiguous_of_projections hreturning (.inl rfl) hidden
    · rw [hreturning, Projection.listShadows_column] at hidden
      cases hidden
  · exact absurd hidden (plan.not_mem_shadows_childStatement (fits.children row hrow))
  · split at hselected
    · obtain ⟨select, _, _, hselect, rfl⟩ := hselected
      rw [List.mem_singleton.1 hselection] at hidden
      exact isAmbiguous_of_createdSelect hselect (inFamily_numberedName _ _) hidden
    · rw [hselected] at hselection
      cases hselection

end InsertPlan

end

/-! ## Chains -/

namespace ProjectionContext

variable {context : ProjectionContext} {table name : String} {a b : Aliases}

/-- What a selection hides is ambiguous. -/
theorem isAmbiguous_of_select {query : SelectQuery} {select : Select}
    (compiled : Returns (context.select table query) a select b)
    (hidden : name ∈ select.shadows []) : context.config.IsAmbiguous context.repository name := by
  obtain ⟨info, columns, condition?, order, _, -, hcolumns, hcondition, horder, rfl⟩ :=
    select_cases compiled
  rcases (Select.mem_shadows_table rfl (shadows_orderTerms horder)).1 hidden with hidden | hidden
  · exact isAmbiguous_of_projections hcolumns (.inl rfl) hidden
  · exact isAmbiguous_of_conditionOn? hcondition hidden

/-- So is what a delete hides. -/
theorem isAmbiguous_of_delete {query : DeleteQuery} {delete : Delete}
    (compiled : Returns (context.delete table query) a delete b)
    (hidden : name ∈ (Statement.delete delete).shadows) :
    context.config.IsAmbiguous context.repository name := by
  obtain ⟨condition?, returning, _, hcondition, hreturning, rfl⟩ := delete_cases compiled
  rcases List.mem_append.1 hidden with hidden | hidden
  · exact isAmbiguous_of_conditionOn? hcondition hidden
  · split at hreturning
    · exact isAmbiguous_of_projections hreturning (.inl rfl) hidden
    · rw [hreturning] at hidden
      cases hidden

/-- So is what a count hides. -/
theorem isAmbiguous_of_count {query : CountQuery} {select : Select}
    (compiled : Returns (context.count table query) a select b)
    (hidden : name ∈ select.shadows []) : context.config.IsAmbiguous context.repository name := by
  obtain ⟨condition?, hcondition, rfl⟩ := count_cases compiled
  rcases (Select.mem_shadows_table rfl (List.forall_mem_nil _)).1 hidden with hidden | hidden
  · cases hidden
  · exact isAmbiguous_of_conditionOn? hcondition hidden

end ProjectionContext

namespace WriteContext

variable {context : WriteContext} {table : String} {data : Json}
  {filter? select? include? : Option Json} {chain : Chain} {s t : Progress}

/-- So is what the statements of an insert hide. -/
theorem isAmbiguous_of_insert
    (compiled : Returns (context.insert table data select? include?) s chain t) :
    ∀ statement ∈ chain.statements, ∀ name ∈ statement.shadows,
      context.config.IsAmbiguous context.repository name := by
  obtain ⟨info, members, plan, _, _, _, -, rfl, hplan, hchain⟩ := plan_of_insert compiled
  intro statement hstatement name hidden
  exact InsertPlan.isAmbiguous_of_chain (insertPlan_fits hplan) hchain hstatement hidden

/-- So is what those of an update hide. -/
theorem isAmbiguous_of_update
    (compiled : Returns (context.update table data filter? select? include?) s chain t) :
    ∀ statement ∈ chain.statements, ∀ name ∈ statement.shadows,
      context.config.IsAmbiguous context.repository name := by
  obtain ⟨info, members, plan, _, -, rfl, hplan, hchain⟩ := plan_of_update compiled
  have hfits := alterationPlan_fits hplan
  obtain ⟨condition?, _, returning, _, _, hcondition, hreturning, -, hchainOf⟩ :=
    AlterationPlan.chain_steps hchain
  obtain ⟨selections, rfl, hselected⟩ := AlterationPlan.chainOf_cases hchainOf
  intro statement hstatement name hidden
  rw [List.mem_append, List.mem_cons, List.mem_map] at hstatement
  rcases hstatement with (rfl | ⟨step, hstep, rfl⟩) | hselection
  · rcases AlterationPlan.shadows_ownStatement hfits hidden with hidden | hidden
    · exact ProjectionContext.isAmbiguous_of_conditionOn? hcondition hidden
    · exact AlterationPlan.isAmbiguous_of_returning hreturning hidden
  · rw [AlterationPlan.shadows_stepStatement hfits hstep] at hidden
    cases hidden
  · split at hselected
    · obtain ⟨columns, _, _, hcolumns, rfl⟩ := hselected
      rw [List.mem_singleton.1 hselection] at hidden
      rcases (Select.mem_shadows_table rfl (List.forall_mem_nil _)).1 hidden with hidden | hidden
      · exact ProjectionContext.isAmbiguous_of_projections hcolumns
          (.inr (inFamily_numberedName _ _)) hidden
      · cases hidden
    · rw [hselected] at hselection
      cases hselection

/-- A name that a subquery hides is ambiguous: both counters hand it out, or it names a table or a
statement besides.  So nothing is hidden if tables, statements and subqueries are named apart. -/
theorem shadows_isAmbiguous {query : Query}
    (compiled : Returns (context.chain table query) s chain t) :
    (∀ statement ∈ chain.statements, ∀ name ∈ statement.shadows,
        context.config.IsAmbiguous context.repository name) ∧
      (context.config.Apart context.repository →
        ∀ statement ∈ chain.statements, statement.shadows = []) := by
  have hambiguous : ∀ statement ∈ chain.statements, ∀ name ∈ statement.shadows,
      context.config.IsAmbiguous context.repository name := by
    cases query with
    | insert query => exact isAmbiguous_of_insert compiled
    | update query => exact isAmbiguous_of_update compiled
    | select query | findOne query =>
      simp only [WriteContext.chain, returns_bind, returns_pure] at compiled
      obtain ⟨select, _, hselect, rfl, rfl⟩ := compiled
      obtain ⟨_, hselect⟩ := returns_naming hselect
      exact List.forall_mem_singleton.2 fun name =>
        ProjectionContext.isAmbiguous_of_select hselect
    | delete query =>
      simp only [WriteContext.chain, returns_bind, returns_pure] at compiled
      obtain ⟨delete, _, hdelete, rfl, rfl⟩ := compiled
      obtain ⟨_, hdelete⟩ := returns_naming hdelete
      exact List.forall_mem_singleton.2 fun name =>
        ProjectionContext.isAmbiguous_of_delete hdelete
    | count query =>
      simp only [WriteContext.chain, returns_bind, returns_pure] at compiled
      obtain ⟨select, _, hselect, rfl, rfl⟩ := compiled
      obtain ⟨_, hselect⟩ := returns_naming hselect
      exact List.forall_mem_singleton.2 fun name =>
        ProjectionContext.isAmbiguous_of_count hselect
  refine ⟨hambiguous, ?_⟩
  intro apart statement hstatement
  rw [List.eq_nil_iff_forall_not_mem]
  intro name hidden
  exact apart.not_isAmbiguous name (hambiguous statement hstatement name hidden)

end WriteContext

/-! ## Filters in included relations -/

namespace Library

/-- Writes with given settings, where every record is accepted. -/
def writesWith (config : Config) : WriteContext := ⟨repository, config, fun _ _ _ _ => pure ()⟩

/-- Books that have a writer. -/
def written : Json := .object [("where", .object [("writer", .object [])])]

/-- Authors with those of their books that have a writer. -/
def writtenBooks : SelectQuery :=
  { SelectQuery.all with select? := some booksTree, include? := some (.object [("books", written)]) }

/-- The books of authors under an alias, where another alias names the writers that the books are
filtered by. -/
def writtenBooksExpr (book author : String) : Expr :=
  .subquery (ProjectionContext.relatedQuery books (.ofEntry (some written))
    (allColumnFields Library.book book) book "author"
    (some (Condition.relatedRow writer author (writer.join author book) false)) [])

/-- The subquery for the books of an author is compiled with two names. -/
theorem compiledWrittenBooks (config : Config) :
    Returns ((writesWith config).projection.relationExpr books none (some written) "author"
        (joinPath "author" "books")) .start
      (writtenBooksExpr (numberedName config.projectionStem 0) (numberedName config.filterStem 0))
      ⟨1, 1⟩ := by
  have hfilter : (IncludeOptions.ofEntry (some written)).filter? =
      some (.object [("writer", .object [])]) := rfl
  have hcondition : ∀ label path, Returns ((writesWith config).projection.filters.condition
      (.object [("writer", .object [])]) book (some label) path) 0
        (some (Condition.relatedRow writer (numberedName config.filterStem 0)
          (writer.join (numberedName config.filterStem 0) label) false)) 1 := fun _ _ => rfl
  rw [ProjectionContext.relationExpr]
  simp only [returns_bind, returns_monadLift, returns_inProjections, returns_fresh]
  refine ⟨book, _, ⟨rfl, rfl⟩, (), _, ⟨rfl, rfl⟩, _, _, ⟨_, ⟨rfl, rfl⟩, rfl⟩, _, _,
    ProjectionContext.returns_fields_none, ?_⟩
  simp only [hfilter, returns_bind, returns_monadLift, returns_pure, returns_inFilters]
  exact ⟨_, _, ⟨1, hcondition _ _, rfl⟩, _, _, ⟨rfl, rfl⟩, _, _, ⟨rfl, rfl⟩, rfl, rfl⟩

/-- The selection of authors is compiled with this subquery. -/
theorem compiledWrittenBooksSelect (config : Config) : ∃ next,
    Returns ((writesWith config).chain "author" (.select writtenBooks)) Progress.start
      ⟨config.chainStem, [.select (.ofColumns [.aliased (writtenBooksExpr
        (numberedName config.projectionStem 0) (numberedName config.filterStem 0)) "books"]
          (.table "author" none))]⟩ next := by
  have hrelation : author.relation? "books" = some books := rfl
  have hshown : ¬ Json.bool true = .bool false := by decide
  have hentry : includedAs? [("books", written)] "books" = some written := rfl
  have hnamed : written = .bool false ∨
      (Members.keys [("books", Json.bool true)]).contains "books" = true := .inr rfl
  have hfields : Returns ((writesWith config).projection.fields (some booksTree)
      (some (.object [("books", written)])) author "author" "author") .start
        [("books", writtenBooksExpr (numberedName config.projectionStem 0)
          (numberedName config.filterStem 0))] ⟨1, 1⟩ := by
    rw [booksTree, ProjectionContext.fields]
    simp only [Json.membersOf, ProjectionContext.selectedFields, ProjectionContext.includedFields,
      hrelation, hshown, hentry, hnamed, if_true, if_false, returns_bind, returns_monadLift,
      returns_pure]
    exact ⟨_, _, ⟨rfl, rfl⟩, _, _, ⟨(), _, ⟨rfl, rfl⟩, _, _, compiledWrittenBooks config, _, _,
      ⟨rfl, rfl⟩, _, _, ⟨rfl, rfl⟩, rfl, rfl⟩, _, _, ⟨_, _, ⟨rfl, rfl⟩, _, _, ⟨rfl, rfl⟩, rfl, rfl⟩, rfl,
      rfl⟩
  have hselect : Returns ((writesWith config).projection.select "author" writtenBooks) .start
      (.ofColumns [.aliased (writtenBooksExpr (numberedName config.projectionStem 0)
        (numberedName config.filterStem 0)) "books"] (.table "author" none)) ⟨1, 1⟩ := by
    simp only [ProjectionContext.select, ProjectionContext.projections, returns_bind, returns_pure,
      returns_monadLift]
    exact ⟨author, _, ⟨rfl, rfl⟩, _, _, ⟨author, _, ⟨rfl, rfl⟩, _, _, hfields, rfl, rfl⟩, _, _, rfl,
      _, _, ⟨rfl, rfl⟩, rfl, rfl⟩
  refine ⟨⟨⟨1, 1⟩, [], []⟩, ?_⟩
  simp only [WriteContext.chain, returns_bind, returns_pure]
  exact ⟨_, _, returns_naming_of hselect, rfl, rfl⟩

/-- The settings that hold by default, but with the stem of projections also for filters. -/
def oneStem : Config := { Config.default with filterStem := "S" }

end Library

namespace WriteContext

/-- With the settings that hold by default, the books and their writers have names of their own. -/
theorem shadows_isAmbiguous_library : ∃ select next,
    Returns ((Library.writesWith .default).chain "author" (.select Library.writtenBooks))
        Progress.start ⟨"R", [.select select]⟩ next ∧
      (∀ statement ∈ [Statement.select select], ∀ name ∈ statement.shadows,
        Config.default.IsAmbiguous Library.repository name) ∧
      (Config.default.Apart Library.repository →
        ∀ statement ∈ [Statement.select select], statement.shadows = []) := by
  obtain ⟨next, hcompiled⟩ := Library.compiledWrittenBooksSelect .default
  exact ⟨_, next, hcompiled, shadows_isAmbiguous hcompiled⟩

/-- With one stem for both counters, the writers that the books are filtered by have the name of the
books, and are compared with themselves. -/
theorem shadows_of_same_stem : Library.repository.Accepted ∧ ∃ select next,
    Returns ((Library.writesWith Library.oneStem).chain "author" (.select Library.writtenBooks))
        Progress.start ⟨"R", [.select select]⟩ next ∧
      select = .ofColumns [.aliased (Library.writtenBooksExpr "S0" "S0") "books"]
        (.table "author" none) ∧
      "S0" ∈ (Statement.select select).shadows := by
  have hname : numberedName "S" 0 = "S0" := by decide
  obtain ⟨next, hcompiled⟩ := Library.compiledWrittenBooksSelect Library.oneStem
  have hstems : Library.oneStem.projectionStem = "S" ∧ Library.oneStem.filterStem = "S" :=
    ⟨rfl, rfl⟩
  rw [hstems.1, hstems.2, hname] at hcompiled
  exact ⟨Library.accepted, _, next, hcompiled, rfl, by decide⟩

end WriteContext

end RelationalQuery
