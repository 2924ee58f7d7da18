import RelationalQuery.Proofs.Query.Created
import RelationalQuery.Proofs.Query.Steps
import RelationalQuery.Proofs.Query.Writing

/-!
# Inserts are well scoped

An insert is compiled in two steps.  Its plan has rows whose columns exist and whose values are
literal, and its chain links these rows by references: to the statements of the rows that the new
row refers to, and to the statement of the new row itself.

Main definitions:

- `NewRow.Fits` and `InsertPlan.Fits` say that the rows of a plan fit their tables.

Main results:

- `WriteContext.insertPlan_fits`: compiled plans fit.
- `InsertPlan.chain_wellScoped`: the chain of a plan that fits is well scoped.
-/

namespace RelationalQuery

open Sql (Catalog Chain Expr Projection Record Select Statement Tables)

/-! ## Plans -/

/-- A related row belongs to a relation of the table, and its record fits the related table. -/
structure NewRow.Fits (row : NewRow) (table : Table) : Prop where
  relation : table.relation? row.relation.name = some row.relation
  record : row.record.Fits row.relation.relatedSchema

/-- All rows of a plan fit. -/
structure InsertPlan.Fits (plan : InsertPlan) (table : Table) : Prop where
  parents : ∀ row ∈ plan.parents, row.Fits table
  own : plan.own.Fits table.schema
  children : ∀ row ∈ plan.children, row.Fits table

namespace WriteContext

variable {context : WriteContext} {table : Table} {s t : Progress}

/-- The entries of relations belong to relations of the table. -/
theorem relation?_of_mem_relationEntries {data : Members} {entry : Relation × Json}
    (h : entry ∈ relationEntries table data) : table.relation? entry.1.name = some entry.1 := by
  obtain ⟨member, -, hmember⟩ := List.mem_filterMap.1 h
  obtain ⟨relation, hrelation, rfl⟩ := Option.map_eq_some_iff.1 hmember
  rw [Table.name_of_relation? hrelation]
  exact hrelation

/-- A step of the collection of foreign keys keeps the rows that are created so far. -/
theorem addForeign_fits {keys next : ForeignKeys} {entry : Relation × Json}
    (fits : ∀ row ∈ keys.parents, row.Fits table)
    (hrelation : table.relation? entry.1.name = some entry.1)
    (h : Returns (context.addForeign table.name keys entry) s next t) :
    ∀ row ∈ next.parents, row.Fits table := by
  obtain ⟨payload?, -, ⟨-, rfl, -⟩ | ⟨payload, -, -, ⟨key, -, -, rfl, -⟩ |
    ⟨-, record, -, hrecord, rfl⟩⟩⟩ := addForeign_cases h
  · exact fits
  · exact fits
  · rw [List.forall_mem_append, List.forall_mem_singleton]
    exact ⟨fits, hrelation, encodedRecord_fits hrecord⟩

/-- A row that refers to the new row fits the relation that it belongs to. -/
theorem childRow_fits {relation : Relation} {entry : String × Members} {row : NewRow}
    (hrelation : table.relation? relation.name = some relation)
    (h : Returns (context.childRow relation entry) s row t) : row.Fits table := by
  obtain ⟨-, -, hrow, hrecord⟩ := childRow_cases h
  refine ⟨by rwa [hrow], ?_⟩
  rw [hrow]
  exact encodedRecord_fits hrecord

theorem childRows_fits {entry : Relation × Json} {rows : List NewRow}
    (hrelation : table.relation? entry.1.name = some entry.1)
    (h : Returns (context.childRows table.name entry) s rows t) :
    ∀ row ∈ rows, row.Fits table := by
  simp only [childRows, returns_bind, returns_monadLift] at h
  obtain ⟨payloads, _, ⟨-, rfl⟩, h⟩ := h
  exact forall_of_returns_mapM h fun _ _ _ _ _ => childRow_fits hrelation

/-- The rows of a compiled plan fit their tables, whatever the validator accepts. -/
theorem insertPlan_fits {data : Members} {plan : InsertPlan}
    (h : Returns (context.insertPlan table data) s plan t) : plan.Fits table := by
  simp only [insertPlan, returns_bind, returns_pure, returns_monadLift] at h
  obtain ⟨keys, _, hkeys, _, _, -, own, _, ⟨hown, rfl⟩, children, _, hchildren, rfl, rfl⟩ := h
  have hparents := returns_foldlM_induction hkeys (P := fun keys => ∀ row ∈ keys.parents,
      row.Fits table) (List.forall_mem_nil _) fun entry hentry _ _ _ _ hfits hstep =>
    addForeign_fits hfits (relation?_of_mem_relationEntries (List.mem_filter.1 hentry).1) hstep
  have hrows : ∀ row ∈ children.flatten, row.Fits table :=
    forall_flatten_of_returns_mapM hchildren fun entry hentry _ _ _ hstep =>
      childRows_fits (relation?_of_mem_relationEntries (List.mem_filter.1 hentry).1) hstep
  exact ⟨hparents, encodedRecord_fits hown, hrows⟩

end WriteContext

/-! ## Statements -/

/-- The expression is a column that an earlier statement returns. -/
def Sql.Expr.IsLink (expr : Expr) (catalog : Catalog) : Prop :=
  ∃ source column columns, expr = .reference source column ∧ catalog source = some columns ∧
    columns.Nodup ∧ column ∈ columns

/-- The columns of a record exist, and its values are literal or links. -/
def Sql.Record.Linked (record : Record) (schema : ObjectSchema) (catalog : Catalog) : Prop :=
  ∀ entry ∈ record.entries,
    schema.contains entry.1 = true ∧ (entry.2.IsLiteral ∨ entry.2.IsLink catalog)

/-- A record that fits is linked to nothing. -/
theorem Sql.Record.Fits.linked {record : Record} {schema : ObjectSchema}
    (h : record.Fits schema) (catalog : Catalog) : record.Linked schema catalog := by
  intro entry hentry
  exact ⟨(h entry hentry).1, .inl (h entry hentry).2⟩

section

variable {tables : Tables} {catalog : Catalog} {name : String} {schema : ObjectSchema}
  {record : Record}

/-- A row of literal values and links is well scoped. -/
theorem insert_exposes {returning : List Projection} (target : tables name = schema.columns)
    (linked : record.Linked schema catalog)
    (returned : ∀ column ∈ returning,
      column.expr.WellScoped catalog [[.ofColumns name schema.columns]]) :
    (Statement.insert ⟨some name, some record, returning⟩).Exposes tables catalog
      (Sql.exposedNames returning schema.columns) := by
  rw [← target] at returned ⊢
  refine .insert rfl rfl ?_ ?_ ?_ returned
  · intro column hcolumn
    obtain ⟨entry, hentry, rfl⟩ := List.mem_map.1 hcolumn
    rw [target]
    exact ObjectSchema.mem_columns.2 (linked entry hentry).1
  · intro source hsource
    obtain ⟨entry, hentry, hmem⟩ := Record.mem_sources.1 hsource
    rcases (linked entry hentry).2 with (hnull | ⟨_, hvalue⟩) | ⟨_, _, _, hlink, hknown, -⟩
    · simp [hnull, Expr.sources] at hmem
    · simp [hvalue, Expr.sources] at hmem
    · obtain rfl := by simpa [hlink, Expr.sources] using hmem
      rw [hknown]
      rfl
  · intro entry hentry
    rcases (linked entry hentry).2 with
      (hnull | ⟨_, hvalue⟩) | ⟨source, _, _, hlink, hknown, hdistinct, hmem⟩
    · rw [hnull]
      exact .null
    · rw [hvalue]
      exact .parameter
    · have hread : source ∈ entry.2.sources := by simp [hlink, Expr.sources]
      have hsource := Record.mem_sources.2 ⟨entry, hentry, hread⟩
      rw [hlink]
      exact .reference (Catalog.resolve_items (Sql.nodup_eraseDups _) hsource hknown hdistinct hmem)

/-- An insert exposes the columns that it returns. -/
theorem insert_exposes_columns {columns : List String} (target : tables name = schema.columns)
    (linked : record.Linked schema catalog)
    (known : ∀ column ∈ columns, schema.contains column = true) :
    (Statement.insert ⟨some name, some record, columns.map Projection.column⟩).Exposes tables
      catalog columns := by
  have h := insert_exposes target linked (columns_wellScoped known)
  rwa [Sql.exposedNames_column] at h

/-- An insert that returns all columns exposes those of the schema. -/
theorem insert_exposes_allColumns (target : tables name = schema.columns)
    (linked : record.Linked schema catalog) :
    (Statement.insert ⟨some name, some record, InsertPlan.allColumns⟩).Exposes tables catalog
      schema.columns := by
  have hall : Sql.exposedNames InsertPlan.allColumns schema.columns = schema.columns := by
    simp [Sql.exposedNames, InsertPlan.allColumns, Projection.exposed, Projection.plain]
  have hreturned : ∀ column ∈ InsertPlan.allColumns,
      column.expr.WellScoped catalog [[.ofColumns name schema.columns]] := by
    rw [InsertPlan.allColumns, List.forall_mem_singleton]
    exact .raw (by decide)
  have h := insert_exposes target linked hreturned
  rwa [hall] at h

end

namespace InsertPlan

variable {repository : Repository} {table : Table} {plan : InsertPlan} {stem : String}
  {select? include? : Option Json} {catalog : Catalog}

/-- The columns that the statement for a row that the new row refers to returns. -/
def parentColumns (select? include? : Option Json) (row : NewRow) : List String :=
  if isSelected select? include? row.relation.name then row.relation.relatedSchema.columns
  else [row.relation.sourceColumn]

/-- The columns that the statement for a row that refers to the new row returns. -/
def childColumns (select? include? : Option Json) (row : NewRow) : List String :=
  if isSelected select? include? row.relation.name then row.relation.relatedSchema.columns else []

/-- The statement for a row before the new one exposes what later ones read. -/
theorem parentStatement_exposes {row : NewRow}
    (coherent : row.relation.Coherent repository table) (fits : row.Fits table) :
    (parentStatement select? include? row).Exposes repository.columnsOf catalog
      (parentColumns select? include? row) := by
  have htarget := coherent.columnsOf_relatedTable
  have hlinked := fits.record.linked catalog
  unfold parentStatement parentColumns
  split
  · exact insert_exposes_allColumns htarget hlinked
  · have hsource : ∀ column ∈ [row.relation.sourceColumn],
        row.relation.relatedSchema.contains column = true := by
      rw [List.forall_mem_singleton]
      exact coherent.source
    exact insert_exposes_columns htarget hlinked hsource

/-- What a row refers to is returned by its statement, once. -/
theorem mem_parentColumns {row : NewRow} (coherent : row.relation.Coherent repository table)
    (select? include? : Option Json) :
    row.relation.sourceColumn ∈ parentColumns select? include? row ∧
      (parentColumns select? include? row).Nodup := by
  unfold parentColumns
  split
  · exact ⟨ObjectSchema.mem_columns.2 coherent.source, ObjectSchema.nodup_columns _⟩
  · exact ⟨List.mem_singleton_self _, List.nodup_singleton _⟩

/-- So does the statement for a row that refers to the new one. -/
theorem childStatement_exposes {row : NewRow} {returned : List String}
    (coherent : row.relation.Coherent repository table) (fits : row.Fits table)
    (own : catalog (plan.ownName stem) = some returned) (distinct : returned.Nodup)
    (target : row.relation.targetColumn ∈ returned) :
    (plan.childStatement stem select? include? row).Exposes repository.columnsOf catalog
      (childColumns select? include? row) := by
  have htarget := coherent.columnsOf_relatedTable
  have hlinked : (plan.childRecord stem row).Linked row.relation.relatedSchema catalog := by
    intro entry hentry
    rcases Record.mem_set hentry with rfl | hold
    · exact ⟨coherent.source, .inr ⟨_, _, _, rfl, own, distinct, target⟩⟩
    · exact fits.record.linked catalog entry hold
  unfold childStatement childColumns
  split
  · exact insert_exposes_allColumns htarget hlinked
  · have hnone : ∀ column ∈ [], row.relation.relatedSchema.contains column = true :=
      List.forall_mem_nil _
    exact insert_exposes_columns htarget hlinked hnone

/-- The new row refers to the rows of the statements before it. -/
theorem ownRecord_linked (select? include? : Option Json) (coherent : repository.Coherent)
    (known : repository.table? table.name = some table) (fits : plan.Fits table)
    (parents : ∀ k row, plan.parents[k]? = some row →
      catalog (numberedName stem k) = some (parentColumns select? include? row)) :
    (plan.ownRecord stem).Linked table.schema catalog := by
  intro entry hentry
  rcases Record.mem_setAll hentry with hlink | hown
  · obtain ⟨⟨row, k⟩, hrow, rfl⟩ := List.mem_map.1 hlink
    have hget := List.mem_zipIdx_iff_getElem?.1 hrow
    have hcoherent := coherent _ _ known _
      (Table.mem_of_relation? (fits.parents row (List.mem_of_getElem? hget)).relation)
    obtain ⟨hsource, hdistinct⟩ := mem_parentColumns hcoherent select? include?
    exact ⟨hcoherent.target, .inr ⟨_, _, _, rfl, parents k row hget, hdistinct, hsource⟩⟩
  · exact fits.own.linked catalog entry hown

/-- The statements for related rows return what a selection reads from them. -/
theorem created_given (fits : plan.Fits table)
    (parents : ∀ k row, plan.parents[k]? = some row →
      isSelected select? include? row.relation.name = true →
      catalog (numberedName stem k) = some row.relation.relatedSchema.columns)
    (children : ∀ k row, plan.children[k]? = some row →
      isSelected select? include? row.relation.name = true →
      catalog (plan.childName stem k) = some row.relation.relatedSchema.columns) :
    ∀ rows ∈ plan.created stem, rows.Given catalog table select? include? := by
  refine CreatedRows.given_foldl ?_ ?_
  · intro entry hentry
    rcases List.mem_append.1 hentry with hentry | hentry
    · obtain ⟨⟨row, k⟩, hrow, rfl⟩ := List.mem_map.1 hentry
      have hget := List.mem_zipIdx_iff_getElem?.1 hrow
      exact (fits.parents row (List.mem_of_getElem? hget)).relation
    · obtain ⟨⟨row, k⟩, hrow, rfl⟩ := List.mem_map.1 hentry
      have hget := List.mem_zipIdx_iff_getElem?.1 hrow
      exact (fits.children row (List.mem_of_getElem? hget)).relation
  · intro entry hentry hselected
    rcases List.mem_append.1 hentry with hentry | hentry
    · obtain ⟨⟨row, k⟩, hrow, rfl⟩ := List.mem_map.1 hentry
      exact parents k row (List.mem_zipIdx_iff_getElem?.1 hrow) hselected
    · obtain ⟨⟨row, k⟩, hrow, rfl⟩ := List.mem_map.1 hentry
      exact children k row (List.mem_zipIdx_iff_getElem?.1 hrow) hselected

/-- Created rows belong to the relation of a row of the plan. -/
theorem exists_row_of_mem_created : ∀ rows ∈ plan.created stem,
    ∃ row ∈ plan.parents ++ plan.children, row.relation = rows.relation := by
  refine CreatedRows.forall_foldl ?_ (fun _ _ _ hrows _ => hrows) (List.forall_mem_nil _)
  intro entry hentry
  rcases List.mem_append.1 hentry with hentry | hentry
  · obtain ⟨⟨row, k⟩, hrow, rfl⟩ := List.mem_map.1 hentry
    exact ⟨row, List.mem_append_left _ (List.fst_mem_of_mem_zipIdx hrow), rfl⟩
  · obtain ⟨⟨row, k⟩, hrow, rfl⟩ := List.mem_map.1 hentry
    exact ⟨row, List.mem_append_right _ (List.fst_mem_of_mem_zipIdx hrow), rfl⟩

/-- Created rows belong to relations of the table. -/
theorem relation?_of_mem_created (fits : plan.Fits table) {rows : CreatedRows}
    (hrows : rows ∈ plan.created stem) : table.relation? rows.relation.name = some rows.relation := by
  obtain ⟨row, hrow, hsame⟩ := exists_row_of_mem_created rows hrows
  rw [← hsame]
  rcases List.mem_append.1 hrow with hrow | hrow
  · exact (fits.parents row hrow).relation
  · exact (fits.children row hrow).relation

/-- No column is returned twice. -/
theorem nodup_returnedColumns :
    (plan.returnedColumns table select? include?).Nodup :=
  Sql.nodup_eraseDups _

/-- What is returned is what later rows refer to, and what the trees require. -/
theorem mem_returnedColumns {column : String} :
    column ∈ plan.returnedColumns table select? include? ↔
      (∃ row ∈ plan.children, row.relation.targetColumn = column) ∨
        ((select?.isSome || include?.isSome) = true ∧
          column ∈ requiredColumns select? include? table) := by
  rw [returnedColumns, mem_columnsReadLater, List.mem_map]

/-! ## Chains -/

/-- The statements for all rows are well scoped, and those behind them can read what these
return. -/
theorem rows_wellScoped (rest : List Statement) (coherent : repository.Coherent)
    (known : repository.table? table.name = some table) (fits : plan.Fits table)
    (free : repository.catalog.FreeFrom stem 0) (extension : catalog.Extends repository.catalog)
    (required : (select?.isSome || include?.isSome) = true →
      ∀ column ∈ requiredColumns select? include? table, table.schema.contains column = true)
    (continued : ∀ later : Catalog, later.Extends repository.catalog →
      later (plan.ownName stem) = some (plan.returnedColumns table select? include?) →
      (∀ rows ∈ plan.created stem, rows.Given later table select? include?) →
      Chain.WellScopedFrom repository.columnsOf stem
        (plan.parents.length + 1 + plan.children.length) later rest) :
    Chain.WellScopedFrom repository.columnsOf stem 0 catalog
      (plan.parents.map (parentStatement select? include?) ++
        plan.ownStatement stem table
            ((plan.returnedColumns table select? include?).map Projection.column) ::
          (plan.children.map (plan.childStatement stem select? include?) ++ rest)) := by
  have hcoherent : ∀ {row : NewRow}, row.Fits table → row.relation.Coherent repository table :=
    fun hrow => coherent _ _ known _ (Table.mem_of_relation? hrow.relation)
  have hcontains : ∀ column ∈ plan.returnedColumns table select? include?,
      table.schema.contains column = true := by
    intro column hcolumn
    rcases mem_returnedColumns.1 hcolumn with ⟨row, hrow, rfl⟩ | ⟨hprojected, hcolumn⟩
    · exact (hcoherent (fits.children row hrow)).target
    · exact required hprojected column hcolumn
  refine .append_map (parentColumns select? include?) free extension ?_ ?_
  · intro row hrow later _
    exact parentStatement_exposes (hcoherent (fits.parents row hrow)) (fits.parents row hrow)
  intro first later hfirst hfree hlater hparents
  rw [Nat.zero_add] at hfree ⊢
  simp only [Nat.zero_add] at hparents
  have hown := insert_exposes_columns (Repository.columnsOf_table? known)
    (ownRecord_linked select? include? coherent known fits
      fun k row hrow => hlater _ _ (hparents k row hrow))
    hcontains
  have hstep := first.extends_extend (hfree _ (Nat.le_refl _))
    (plan.returnedColumns table select? include?)
  refine .cons hown (.append_map (childColumns select? include?) (hfree.extend _)
    (hlater.extend _ _) ?_ ?_)
  · intro row hrow last hlast
    have hname := hlast _ _ (first.extend_self _ _)
    refine childStatement_exposes (hcoherent (fits.children row hrow)) (fits.children row hrow)
      hname nodup_returnedColumns ?_
    exact mem_returnedColumns.2 (.inl ⟨row, hrow, rfl⟩)
  · intro second last hsecond _ hlast hchildren
    have hall := hlast.trans hsecond
    refine continued last ((hall.trans hstep).trans hfirst) (hall _ _ (first.extend_self _ _)) ?_
    refine created_given fits ?_ ?_
    · intro k row hrow hselected
      have hknown := hall _ _ (hstep _ _ (hparents k row hrow))
      rwa [parentColumns, if_pos hselected] at hknown
    · intro k row hrow hselected
      have hknown := hlast _ _ (hchildren k row hrow)
      rwa [childColumns, if_pos hselected] at hknown

section

variable {context : ProjectionContext} {a b : Aliases}

/-- A row without related rows is read from its own statement. -/
theorem single_wellScoped (coherent : context.repository.Coherent)
    (known : context.repository.table? table.name = some table) (fits : plan.Fits table)
    (single : plan.isSingle = true) {returning : List Projection}
    (returned : ∀ column ∈ returning,
      column.expr.WellScoped catalog [[.ofColumns table.name table.schema.columns]]) :
    Chain.WellScopedFrom context.repository.columnsOf stem 0 catalog
      [plan.ownStatement stem table returning] := by
  have hparents : plan.parents = [] := by
    simp only [isSingle, Bool.and_eq_true, List.isEmpty_iff] at single
    exact single.1
  have hown : (plan.ownRecord stem).Linked table.schema catalog :=
    ownRecord_linked none none coherent known fits (by simp [hparents])
  exact .cons (insert_exposes (Repository.columnsOf_table? known) hown returned) .nil

/-- The selection behind the statements for all rows is well scoped. -/
theorem selected_wellScoped (coherent : context.repository.Coherent)
    (apart : context.config.Apart context.repository)
    (known : context.repository.table? table.name = some table) (fits : plan.Fits table)
    (extension : catalog.Extends context.repository.catalog)
    (projected : (select?.isSome || include?.isSome) = true) {select : Select}
    (compiled : Returns (createdSelect context table (plan.ownName context.config.chainStem)
      (plan.created context.config.chainStem) select? include?) a select b) :
    Chain.WellScopedFrom context.repository.columnsOf context.config.chainStem 0 catalog
      (plan.parents.map (parentStatement select? include?) ++
        plan.ownStatement context.config.chainStem table
            ((plan.returnedColumns table select? include?).map Projection.column) ::
          (plan.children.map (plan.childStatement context.config.chainStem select? include?) ++
            [.select select])) := by
  refine rows_wellScoped _ coherent known fits apart.freeFrom extension
    (fun _ => contains_requiredColumns_of_createdSelect coherent known
      (fun _ => relation?_of_mem_created fits) compiled) ?_
  intro later hlater hown hgiven
  have hfree : ¬ InFamily context.config.projectionStem (plan.ownName context.config.chainStem) :=
    apart.chainProjection _ (inFamily_numberedName _ _)
  obtain ⟨columns, hselect⟩ := createdSelect_exposes coherent apart hlater known hown
    nodup_returnedColumns (fun _ hcolumn => mem_returnedColumns.2 (.inr ⟨projected, hcolumn⟩))
    hfree hgiven compiled
  exact .cons (.select hselect) .nil

/-- The chain of a plan that fits is well scoped. -/
theorem chain_wellScoped (coherent : context.repository.Coherent)
    (apart : context.config.Apart context.repository)
    (known : context.repository.table? table.name = some table) (fits : plan.Fits table)
    {chain : Chain} (compiled : Returns (plan.chain context table select? include?) a chain b) :
    chain.WellScoped context.repository.columnsOf := by
  refine apart.chain_wellScoped fun catalog extension => ?_
  unfold InsertPlan.chain at compiled
  simp only at compiled
  split at compiled
  · rename_i hsingle
    split at compiled
    · simp only [returns_bind, returns_pure] at compiled
      obtain ⟨returning, _, hreturning, rfl, rfl⟩ := compiled
      have hreturned := context.wellScoped_own coherent apart extension hreturning
      rw [Repository.columnsOf_table? known] at hreturned
      exact ⟨rfl, single_wellScoped coherent known fits hsingle hreturned⟩
    · simp only [returns_bind, returns_pure] at compiled
      obtain ⟨_, _, ⟨rfl, rfl⟩, rfl, rfl⟩ := compiled
      exact ⟨rfl, single_wellScoped coherent known fits hsingle (List.forall_mem_nil _)⟩
  · split at compiled
    · rename_i hprojected
      simp only [returns_bind, returns_pure] at compiled
      obtain ⟨select, _, hselect, rfl, rfl⟩ := compiled
      have hchain := selected_wellScoped coherent apart known fits extension hprojected hselect
      rw [← List.cons_append, ← List.append_assoc] at hchain
      exact ⟨rfl, hchain⟩
    · rename_i hunprojected
      rw [returns_pure] at compiled
      have hchain := rows_wellScoped [] coherent known fits apart.freeFrom extension
        (fun hprojected => absurd hprojected hunprojected) fun _ _ _ _ => .nil
      rw [compiled.1]
      rw [List.append_nil] at hchain
      exact ⟨rfl, hchain⟩

end

end InsertPlan

/-- The chain of a compiled insert is well scoped. -/
theorem WriteContext.insert_wellScoped {context : WriteContext}
    (coherent : context.repository.Coherent) (apart : context.config.Apart context.repository)
    {table : String} {data : Json} {select? include? : Option Json} {chain : Chain} {s t : Progress}
    (compiled : Returns (context.insert table data select? include?) s chain t) :
    chain.WellScoped context.repository.columnsOf := by
  obtain ⟨info, members, plan, _, _, _, hknown, -, hplan, hchain⟩ := plan_of_insert compiled
  have hwellScoped : chain.WellScoped context.projection.repository.columnsOf :=
    InsertPlan.chain_wellScoped coherent apart (Repository.table?_self hknown)
      (insertPlan_fits hplan) hchain
  exact hwellScoped

end RelationalQuery
