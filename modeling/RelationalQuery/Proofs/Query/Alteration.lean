import RelationalQuery.Proofs.Projection.WellScoped
import RelationalQuery.Proofs.Query.Steps
import RelationalQuery.Proofs.Query.Writing

/-!
# Updates are well scoped

An update is compiled in two steps.  Its plan assigns values to columns of the table and of related
tables, and a value reads at most the column that it changes: operations and merges read it under
the qualifier that the statement needs.  The chain joins the statements for related rows to the
statement for the rows of the table, which returns what they and the selection behind them read.

Main definitions:

- `Assignment.Fits` and `AlterationPlan.Fits` say that assignments fit the tables that they change.

Main results:

- `WriteContext.alterationPlan_fits`: compiled plans fit.
- `AlterationPlan.chain_wellScoped`: the chain of a plan that fits is well scoped.
-/

namespace RelationalQuery

open Sql (Assignment Catalog Chain Condition Expr Item Patch Projection Scope Select Statement
  Tables Update)

/-! ## Values -/

/-- An assignment changes a column of the table, and its value reads at most this column. -/
structure Sql.Assignment.Fits (assignment : Assignment) (schema : ObjectSchema)
    (qualifier? : Option String) : Prop where
  plain : assignment.target.qualifier? = none
  column : schema.contains assignment.target.name = true
  value : assignment.value.OnColumn qualifier? assignment.target.name

section

variable {schema : ObjectSchema} {qualifier? : Option String} {column : String}

/-- The value of a key inside a patch reads the same column in all of its forms. -/
theorem Sql.Patch.onColumn_stored {expr : Expr} (h : expr.OnColumn qualifier? column) :
    (Patch.stored expr).OnColumn qualifier? column := by
  unfold Patch.stored
  split
  · exact .raw (by decide)
  · exact h

/-- What a merge stores is on the column that the value is on. -/
theorem Sql.Patch.onColumn_merged {expr : Expr} (h : expr.OnColumn qualifier? column) :
    (Patch.merged expr).OnColumn qualifier? column := by
  unfold Patch.merged
  split
  · exact .cast .parameter
  · exact h

/-- An operation reads its column alone. -/
theorem operationExpr_onColumn {keys : List String} {members : Members} {field : Field}
    {path : String} {expr : Expr}
    (h : operationExpr ⟨qualifier?, column, keys⟩ members field path = .ok expr) :
    expr.OnColumn qualifier? column := by
  simp only [operationExpr, bind_eq_ok_iff, pure_eq_ok_iff] at h
  obtain ⟨⟨operator, operand⟩, -, rfl⟩ := h
  exact .operation

/-! ## Assignments -/

/-- The assignments of a patch change its column, whichever form they have. -/
theorem Sql.Patch.assignments_fits {patch : Patch} {nested : ObjectSchema}
    (qualified : patch.qualifier? = qualifier?) (known : schema.contains patch.column = true)
    (values : ∀ entry ∈ patch.entries, entry.2.OnColumn qualifier? patch.column) :
    ∀ assignment ∈ patch.assignments nested, assignment.Fits schema qualifier? := by
  subst qualified
  unfold Patch.assignments
  split
  · intro assignment hassignment
    obtain ⟨entry, hentry, rfl⟩ := List.mem_map.1 hassignment
    exact ⟨rfl, known, values entry hentry⟩
  · rw [List.forall_mem_singleton]
    refine ⟨rfl, known, .merge ?_⟩
    intro entry hentry
    obtain ⟨member, hmember, rfl⟩ := List.mem_map.1 hentry
    exact Patch.onColumn_merged (values member hmember)

end

namespace WriteContext

variable {context : WriteContext} {schema : ObjectSchema} {qualifier? : Option String}
  {s t : Progress}

/-- The value of a key of a patch reads the patched column alone. -/
theorem patchExpr_onColumn {column path : String} {nested : ObjectSchema} {entry : String × Json}
    {expr : Expr} (h : Returns (context.patchExpr column nested path qualifier? entry) s expr t) :
    expr.OnColumn qualifier? column := by
  obtain ⟨field, -, ⟨members, -, -, hoperation⟩ | ⟨-, -, rfl⟩⟩ := patchExpr_cases h
  · exact operationExpr_onColumn hoperation
  · split
    · exact .null
    · exact .parameter

/-- The assignments of a patch fit the schema that has its column. -/
theorem patchAssignments_fits {column path : String} {members : Members} {nested : ObjectSchema}
    {assignments : List Assignment} (known : schema.contains column = true)
    (h : Returns (context.patchAssignments column members nested path qualifier?) s assignments t) :
    ∀ assignment ∈ assignments, assignment.Fits schema qualifier? := by
  obtain ⟨entries, _, -, hexprs, rfl, rfl⟩ := patchAssignments_cases h
  split
  · exact List.forall_mem_nil _
  · refine Patch.assignments_fits rfl known (List.forall_mem_map.2 ?_)
    intro entry hentry
    obtain ⟨_, -, -, _, _, hexpr⟩ := exists_mem_of_forall₂ hexprs hentry
    exact Patch.onColumn_stored (patchExpr_onColumn hexpr)

/-- The assignments of the entry of a column change that column. -/
theorem fieldAssignments_fits {path : String} {entry : String × Json}
    {assignments : List Assignment}
    (h : Returns (context.fieldAssignments schema path qualifier? entry) s assignments t) :
    ∀ assignment ∈ assignments, assignment.Fits schema qualifier? := by
  obtain ⟨field, hknown, hcases⟩ := fieldAssignments_cases h
  have hcolumn := ObjectSchema.contains_of_get? hknown
  rcases hcases with ⟨members, expr, -, -, hexpr, rfl⟩ | ⟨nested, members, -, -, hpatch⟩ |
    ⟨expr, -, -, -, hexpr, rfl⟩
  · rw [List.forall_mem_singleton]
    exact ⟨rfl, hcolumn, operationExpr_onColumn hexpr⟩
  · exact patchAssignments_fits hcolumn hpatch
  · rw [List.forall_mem_singleton]
    exact ⟨rfl, hcolumn, (fieldExpr_isLiteral hexpr).onColumn⟩

end WriteContext

/-! ## Plans -/

/-- All assignments of a plan fit the tables that they change. -/
structure AlterationPlan.Fits (plan : AlterationPlan) (table : Table) : Prop where
  own : ∀ assignment ∈ plan.own, assignment.Fits table.schema none
  relations : ∀ step ∈ plan.steps, step.relation ∈ table.relations
  steps : ∀ step ∈ plan.steps, ∀ assignment ∈ step.assignments,
    assignment.Fits step.relation.relatedSchema (some step.relation.relatedTable)

namespace AlterationPlan

variable {plan : AlterationPlan} {table : Table}

/-- A plan that fits can assign what fits. -/
theorem Fits.assign (fits : plan.Fits table) {assignments : List Assignment}
    (h : ∀ assignment ∈ assignments, assignment.Fits table.schema none) :
    (plan.assign assignments).Fits table := by
  refine ⟨?_, fits.relations, fits.steps⟩
  rw [AlterationPlan.assign, List.forall_mem_append]
  exact ⟨fits.own, h⟩

/-- A plan that fits can change the rows of a relation of its table. -/
theorem Fits.change (fits : plan.Fits table) {relation : Relation}
    (belongs : relation ∈ table.relations) {assignments : List Assignment}
    (h : ∀ assignment ∈ assignments,
      assignment.Fits relation.relatedSchema (some relation.relatedTable)) :
    (plan.change relation assignments).Fits table := by
  unfold AlterationPlan.change
  split
  · exact fits
  · refine ⟨fits.own, ?_, ?_⟩
    · rw [List.forall_mem_append, List.forall_mem_singleton]
      exact ⟨fits.relations, belongs⟩
    · rw [List.forall_mem_append, List.forall_mem_singleton]
      exact ⟨fits.steps, h⟩

end AlterationPlan

namespace WriteContext

variable {context : WriteContext} {table : Table} {plan next : AlterationPlan} {relation : Relation}
  {s t : Progress}

/-- Connecting rows changes one column on one of the two sides. -/
theorem connect_fits {path : String} {payload : Members} {key : Json} (fits : plan.Fits table)
    (belongs : relation ∈ table.relations)
    (h : Returns (context.connect table path plan relation payload key) s next t) :
    next.Fits table := by
  rcases connect_cases h with ⟨-, field, expr, -, hknown, hexpr, rfl⟩ |
    ⟨-, field, expr, -, hknown, hexpr, rfl⟩
  · refine fits.change belongs ?_
    rw [List.forall_mem_singleton]
    exact ⟨rfl, ObjectSchema.contains_of_get? hknown, (fieldExpr_isLiteral hexpr).onColumn⟩
  · refine fits.assign ?_
    rw [List.forall_mem_singleton]
    exact ⟨rfl, ObjectSchema.contains_of_get? hknown, (fieldExpr_isLiteral hexpr).onColumn⟩

/-- The entry of a relation keeps the changes so far, and adds assignments that fit. -/
theorem addRelation_fits {data : Members} (fits : plan.Fits table)
    (belongs : relation ∈ table.relations)
    (h : Returns (context.addRelation table data plan relation) s next t) : next.Fits table := by
  rcases addRelation_cases h with ⟨-, rfl, -⟩ |
    ⟨payload, -, ⟨key, -, hconnect⟩ | ⟨-, assignments, hassignments, rfl⟩⟩
  · exact fits
  · exact connect_fits fits belongs hconnect
  · exact fits.change belongs
      (forall_flatten_of_returns_mapM hassignments fun _ _ _ _ _ => fieldAssignments_fits)

/-- The assignments of a compiled plan fit, whatever the validator accepts. -/
theorem alterationPlan_fits {data : Members}
    (h : Returns (context.alterationPlan table data) s plan t) : plan.Fits table := by
  simp only [alterationPlan, returns_bind] at h
  obtain ⟨own, _, hown, hsteps⟩ := h
  have hassigned : ∀ assignment ∈ own.flatten, assignment.Fits table.schema none :=
    forall_flatten_of_returns_mapM hown fun _ _ _ _ _ => fieldAssignments_fits
  have hstart : AlterationPlan.empty.Fits table :=
    ⟨List.forall_mem_nil _, List.forall_mem_nil _, List.forall_mem_nil _⟩
  refine returns_foldlM_induction hsteps (P := fun plan => plan.Fits table)
    (hstart.assign hassigned) ?_
  intro relation hrelation _ _ _ _ hfits hstep
  exact addRelation_fits hfits hrelation hstep

end WriteContext

/-! ## Statements -/

namespace AlterationPlan

variable {plan : AlterationPlan} {table : Table} {tables : Tables} {catalog : Catalog}
  {select? include? : Option Json}

/-- Assignments that fit read no earlier statement. -/
theorem sources_of_fits {assignments : List Assignment} {schema : ObjectSchema}
    {qualifier? : Option String}
    (fits : ∀ assignment ∈ assignments, assignment.Fits schema qualifier?) :
    Assignment.sources assignments = [] := by
  rw [Assignment.sources, List.flatMap_eq_nil_iff]
  intro assignment hassignment
  exact (fits assignment hassignment).value.sources_eq_nil

/-- The statement for the rows of the table is well scoped, whether it changes or only selects them;
it exposes the columns that it returns. -/
theorem ownStatement_exposes (fits : ∀ assignment ∈ plan.own, assignment.Fits table.schema none)
    (target : tables table.name = table.schema.columns)
    (known : catalog table.name = some table.schema.columns) {condition? : Option Condition}
    (hcondition : ∀ condition ∈ condition?,
      condition.WellScoped catalog [[.ofColumns table.name table.schema.columns]])
    {returning : List Projection}
    (returned : ∀ column ∈ returning,
      column.expr.WellScoped catalog [[.ofColumns table.name table.schema.columns]]) :
    ∃ columns, (plan.ownStatement table.name condition? returning).Exposes tables catalog columns ∧
      (returning ≠ [] → columns = Sql.exposedNames returning table.schema.columns) := by
  unfold ownStatement
  split
  · simp only
    have hcolumns : ∀ column ∈ if returning.isEmpty then [Projection.plain (.raw "1")]
        else returning, column.expr.WellScoped catalog
          [[.ofColumns table.name table.schema.columns]] := by
      split
      · rw [List.forall_mem_singleton]
        exact .raw (by decide)
      · exact returned
    refine ⟨_, .select (.rows rfl (.table known) hcolumns hcondition
      (List.forall_mem_nil _)), ?_⟩
    intro hreturning
    simp [Select.exposed, Select.ofColumns, hreturning]
  · have hsources : Update.allSources ⟨some table.name, plan.own, [], condition?, returning⟩ =
        [] := by
      rw [Update.allSources, sources_of_fits fits]
      rfl
    have hreads : ∀ column, table.schema.contains column = true →
        Scope.resolve [[.ofColumns table.name table.schema.columns]] none column = some () :=
      (table.reads_plain []).own
    rw [← target] at hcondition returned hreads ⊢
    refine ⟨_, .update rfl ?_ ?_ ?_ ?_ ?_, fun _ => rfl⟩
    · intro assignment hassignment
      have hfits := fits assignment hassignment
      rw [target]
      exact ⟨hfits.plain, ObjectSchema.mem_columns.2 hfits.column⟩
    · rw [hsources]
      exact List.forall_mem_nil _
    · rw [hsources]
      intro assignment hassignment
      exact (fits assignment hassignment).value.wellScoped
        (hreads _ (fits assignment hassignment).column)
    · rw [hsources]
      exact hcondition
    · rw [hsources]
      exact returned

/-- The statement for related rows joins them to the rows that the main statement returns. -/
theorem stepStatement_exposes {repository : Repository} {step : AlterationStep}
    (coherent : step.relation.Coherent repository table)
    (fits : ∀ assignment ∈ step.assignments,
      assignment.Fits step.relation.relatedSchema (some step.relation.relatedTable))
    {main : String} {returned : List String} (known : catalog main = some returned)
    (distinct : returned.Nodup) (target : step.relation.targetColumn ∈ returned)
    (apart : step.relation.relatedTable ≠ main) :
    (stepStatement main step).Exposes repository.columnsOf catalog [] := by
  have htarget := coherent.columnsOf_relatedTable
  have hsources : Update.allSources {
      table? := some step.relation.relatedTable, assignments := step.assignments,
      sources := [main], where? := some (.equal
        (.column (.qualified step.relation.relatedTable step.relation.sourceColumn))
        (.reference main step.relation.targetColumn)), returning := [] } = [main] := by
    rw [Update.allSources, sources_of_fits fits]
    rfl
  have hitems : catalog.items [main] = [.ofColumns main returned] := by
    simp [Catalog.items, known]
  -- The two items of the frame have distinct names.
  have hnames : ([Item.ofColumns step.relation.relatedTable step.relation.relatedSchema.columns,
      .ofColumns main returned].map (·.name)).Nodup := by
    simpa [Item.ofColumns] using apart
  have hrelated : ∀ column, step.relation.relatedSchema.contains column = true →
      Scope.resolve [[.ofColumns step.relation.relatedTable step.relation.relatedSchema.columns,
        .ofColumns main returned]] (some step.relation.relatedTable) column = some () := by
    intro column hcolumn
    exact (Scope.resolve_of_mem hnames List.mem_cons_self [] column).trans
      (Item.column?_ofColumns (ObjectSchema.nodup_columns _) (ObjectSchema.mem_columns.2 hcolumn) _)
  have hmain : Scope.resolve [[.ofColumns step.relation.relatedTable
      step.relation.relatedSchema.columns, .ofColumns main returned]] (some main)
        step.relation.targetColumn = some () :=
    (Scope.resolve_of_mem hnames (by simp) [] _).trans (Item.column?_ofColumns distinct target main)
  rw [← htarget] at hrelated hmain
  refine .update rfl ?_ ?_ ?_ ?_ (List.forall_mem_nil _)
  · intro assignment hassignment
    have hfits := fits assignment hassignment
    rw [htarget]
    exact ⟨hfits.plain, ObjectSchema.mem_columns.2 hfits.column⟩
  · rw [hsources, List.forall_mem_singleton, known]
    rfl
  · rw [hsources, hitems]
    intro assignment hassignment
    exact (fits assignment hassignment).value.wellScoped
      (hrelated _ (fits assignment hassignment).column)
  · rw [hsources, hitems]
    rintro _ ⟨⟩
    exact .compare (.column (hrelated _ coherent.source)) (.reference hmain)

/-- No column is carried twice. -/
theorem nodup_carriedColumns : (plan.carriedColumns table select? include?).Nodup :=
  Sql.nodup_eraseDups _

/-- What is carried is what the steps refer to, and what the trees require. -/
theorem mem_carriedColumns {column : String} :
    column ∈ plan.carriedColumns table select? include? ↔
      (∃ step ∈ plan.steps, step.relation.targetColumn = column) ∨
        ((select?.isSome || include?.isSome) = true ∧
          column ∈ requiredColumns select? include? table) := by
  rw [carriedColumns, mem_columnsReadLater, List.mem_map]

/-! ## Chains -/

section

variable {context : ProjectionContext} {a b : Aliases} {s t : Progress}

/-- What the statement for the rows of the table returns is well scoped, and if there are steps it
is what they and a selection behind them read. -/
theorem returning_wellScoped (coherent : context.repository.Coherent)
    (apart : context.config.Apart context.repository)
    (extension : catalog.Extends context.repository.catalog)
    (known : context.repository.table? table.name = some table) {returning : List Projection}
    (compiled : Returns (plan.returning context table select? include?) a returning b) :
    plan.steps ≠ [] ∧
        returning = (plan.carriedColumns table select? include?).map Projection.column ∨
      plan.steps = [] ∧ ∀ column ∈ returning,
        column.expr.WellScoped catalog [[.ofColumns table.name table.schema.columns]] := by
  rcases returning_cases compiled with ⟨hsteps, rfl⟩ | ⟨hsteps, -, hcolumns⟩ | ⟨hsteps, -, rfl⟩
  · exact .inl ⟨hsteps, rfl⟩
  · rw [← Repository.columnsOf_table? known]
    exact .inr ⟨hsteps, context.wellScoped_own coherent apart extension hcolumns⟩
  · exact .inr ⟨hsteps, List.forall_mem_nil _⟩

/-- The statements for the rows of the table and for related rows are well scoped, and a statement
behind them can read what the first one returns. -/
theorem steps_wellScoped (rest : List Statement) (coherent : context.repository.Coherent)
    (apart : context.config.Apart context.repository)
    (extension : catalog.Extends context.repository.catalog)
    (known : context.repository.table? table.name = some table) (fits : plan.Fits table)
    {condition? : Option Condition}
    (hcondition : ∀ condition ∈ condition?,
      condition.WellScoped catalog [[.ofColumns table.name table.schema.columns]])
    (nonempty : plan.steps ≠ [])
    (required : (select?.isSome || include?.isSome) = true →
      ∀ column ∈ requiredColumns select? include? table, table.schema.contains column = true)
    (continued : ∀ later : Catalog, later.Extends context.repository.catalog →
      later (numberedName context.config.chainStem 0) =
        some (plan.carriedColumns table select? include?) →
      Chain.WellScopedFrom context.repository.columnsOf context.config.chainStem
        (1 + plan.steps.length) later rest) :
    Chain.WellScopedFrom context.repository.columnsOf context.config.chainStem 0 catalog
      (plan.ownStatement table.name condition?
          ((plan.carriedColumns table select? include?).map Projection.column) ::
        (plan.steps.map (stepStatement (numberedName context.config.chainStem 0)) ++ rest)) := by
  have hcontains : ∀ column ∈ plan.carriedColumns table select? include?,
      table.schema.contains column = true := by
    intro column hcolumn
    rcases mem_carriedColumns.1 hcolumn with ⟨step, hstep, rfl⟩ | ⟨hprojected, hcolumn⟩
    · exact (coherent _ _ known _ (fits.relations step hstep)).target
    · exact required hprojected column hcolumn
  obtain ⟨columns, hown, hexposed⟩ := ownStatement_exposes fits.own
    (Repository.columnsOf_table? known) (Repository.catalog_of_table? extension known) hcondition
    (columns_wellScoped hcontains)
  have hcarried : columns = plan.carriedColumns table select? include? := by
    rw [hexposed, Sql.exposedNames_column]
    obtain ⟨step, hstep⟩ := List.exists_mem_of_ne_nil _ nonempty
    have htarget : step.relation.targetColumn ∈ plan.carriedColumns table select? include? :=
      mem_carriedColumns.2 (.inl ⟨step, hstep, rfl⟩)
    intro hnil
    rw [List.map_eq_nil_iff] at hnil
    simp [hnil] at htarget
  rw [hcarried] at hown
  have hextends := Catalog.extends_extend (apart.freeFrom 0 (Nat.le_refl 0))
    (plan.carriedColumns table select? include?)
  refine .cons hown (.append_map (fun _ => []) (apart.freeFrom.extend _)
    (extension.extend _ _) ?_ ?_)
  · intro step hstep later hlater
    have hrelation := coherent _ _ known _ (fits.relations step hstep)
    refine stepStatement_exposes hrelation (fits.steps step hstep)
      (hlater _ _ (Catalog.extend_self ..)) nodup_carriedColumns
      (mem_carriedColumns.2 (.inl ⟨step, hstep, rfl⟩)) ?_
    -- No table is named like a statement.
    obtain ⟨related, hrelated, -⟩ := hrelation.related
    intro hname
    exact (apart.tables _ _ hrelated).1 ⟨0, hname⟩
  · intro second later hsecond _ hlater _
    have hall := hlater.trans hsecond
    rw [Nat.zero_add]
    exact continued later (hall.trans hextends) (hall _ _ (Catalog.extend_self ..))

/-- The selection behind the changes of related rows is well scoped. -/
theorem selected_wellScoped (coherent : context.repository.Coherent)
    (apart : context.config.Apart context.repository)
    (extension : catalog.Extends context.repository.catalog)
    (known : context.repository.table? table.name = some table) (fits : plan.Fits table)
    {condition? : Option Condition}
    (hcondition : ∀ condition ∈ condition?,
      condition.WellScoped catalog [[.ofColumns table.name table.schema.columns]])
    (nonempty : plan.steps ≠ []) (projected : (select?.isSome || include?.isSome) = true)
    {columns : List Projection}
    (compiled : Returns (context.projections select? include? table.name
      (numberedName context.config.chainStem 0)) a columns b) :
    Chain.WellScopedFrom context.repository.columnsOf context.config.chainStem 0 catalog
      (plan.ownStatement table.name condition?
          ((plan.carriedColumns table select? include?).map Projection.column) ::
        (plan.steps.map (stepStatement (numberedName context.config.chainStem 0)) ++
          [.select (.ofColumns columns
            (.table (numberedName context.config.chainStem 0) none))])) := by
  refine steps_wellScoped _ coherent apart extension known fits hcondition nonempty
    (fun _ => context.contains_requiredColumns coherent compiled known) ?_
  intro later hlater hmain
  have hsees : ∀ column ∈ requiredColumns select? include? table,
      Scope.resolve (Scope.push [] (.ofColumns (numberedName context.config.chainStem 0)
        (plan.carriedColumns table select? include?)))
        (some (numberedName context.config.chainStem 0)) column = some () := by
    intro column hcolumn
    exact Scope.resolve_push_ofColumns nodup_carriedColumns
      (mem_carriedColumns.2 (.inr ⟨projected, hcolumn⟩)) [] _
  have hselect := context.wellScoped_projections coherent apart hlater compiled known hsees
    (apart.chainProjection _ (inFamily_numberedName _ 0))
  exact .cons (.select (.rows rfl (.table hmain) hselect (by rintro _ ⟨⟩)
    (List.forall_mem_nil _))) .nil

/-- The chain of the statements of a plan is well scoped in every catalog with the tables. -/
theorem chainOf_wellScoped (coherent : context.repository.Coherent)
    (apart : context.config.Apart context.repository)
    (extension : catalog.Extends context.repository.catalog)
    (known : context.repository.table? table.name = some table) (fits : plan.Fits table)
    {condition? : Option Condition}
    (hcondition : ∀ condition ∈ condition?,
      condition.WellScoped catalog [[.ofColumns table.name table.schema.columns]])
    {returning : List Projection}
    (returned : Returns (plan.returning context table select? include?) a returning b)
    {chain : Chain}
    (compiled : Returns (plan.chainOf context table select? include?
      (plan.ownStatement table.name condition? returning ::
        plan.steps.map (stepStatement (numberedName context.config.chainStem 0)))) s chain t) :
    chain.stem = context.config.chainStem ∧
      Chain.WellScopedFrom context.repository.columnsOf chain.stem 0 catalog chain.statements := by
  simp only [AlterationPlan.chainOf] at compiled
  split at compiled
  · rename_i hread
    simp only [returns_bind, returns_pure] at compiled
    obtain ⟨columns, _, hcolumns, rfl, rfl⟩ := compiled
    obtain ⟨_, hcolumns⟩ := returns_naming hcolumns
    rw [Bool.and_eq_true] at hread
    refine ⟨rfl, ?_⟩
    rcases returning_wellScoped coherent apart extension known returned with
      ⟨hsteps, rfl⟩ | ⟨hsteps, -⟩
    · exact selected_wellScoped coherent apart extension known fits hcondition hsteps hread.2
        hcolumns
    · simp [hsteps] at hread
  · rename_i hunread
    rw [returns_pure] at compiled
    rw [compiled.1]
    refine ⟨rfl, ?_⟩
    rcases returning_wellScoped coherent apart extension known returned with
      ⟨hsteps, rfl⟩ | ⟨hsteps, hreturned⟩
    · have hunprojected : ¬ (select?.isSome || include?.isSome) = true := by
        intro hprojected
        simp [hsteps, hprojected] at hunread
      have hchain := steps_wellScoped [] coherent apart extension known fits hcondition hsteps
        (fun hprojected => absurd hprojected hunprojected) fun _ _ _ => .nil
      rwa [List.append_nil] at hchain
    · obtain ⟨columns, hown, -⟩ := ownStatement_exposes fits.own
        (Repository.columnsOf_table? known) (Repository.catalog_of_table? extension known)
        hcondition hreturned
      rw [hsteps]
      exact .cons hown .nil

/-- The chain of a plan that fits is well scoped. -/
theorem chain_wellScoped (coherent : context.repository.Coherent)
    (apart : context.config.Apart context.repository)
    (known : context.repository.table? table.name = some table) (fits : plan.Fits table)
    {filter? : Option Json} {chain : Chain}
    (compiled : Returns (plan.chain context table filter? select? include?) s chain t) :
    chain.WellScoped context.repository.columnsOf := by
  obtain ⟨condition?, _, returning, _, _, hcondition, hreturning, -, hchain⟩ := chain_steps compiled
  refine apart.chain_wellScoped fun catalog extension => ?_
  have hfilter := context.wellScoped_conditionOn? coherent apart extension hcondition (.inl rfl)
  rw [Repository.columnsOf_table? known] at hfilter
  exact chainOf_wellScoped coherent apart extension known fits hfilter hreturning hchain

end

end AlterationPlan

/-- The chain of a compiled update is well scoped. -/
theorem WriteContext.update_wellScoped {context : WriteContext}
    (coherent : context.repository.Coherent) (apart : context.config.Apart context.repository)
    {table : String} {data : Json} {filter? select? include? : Option Json} {chain : Chain}
    {s t : Progress}
    (compiled : Returns (context.update table data filter? select? include?) s chain t) :
    chain.WellScoped context.repository.columnsOf := by
  obtain ⟨info, members, plan, _, hknown, -, hplan, hchain⟩ := plan_of_update compiled
  replace hknown := Repository.table?_self hknown
  have hwellScoped : chain.WellScoped context.projection.repository.columnsOf :=
    AlterationPlan.chain_wellScoped coherent apart hknown
      (alterationPlan_fits hplan) hchain
  exact hwellScoped

end RelationalQuery
