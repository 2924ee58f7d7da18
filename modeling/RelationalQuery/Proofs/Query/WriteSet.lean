import RelationalQuery.Proofs.Projection.Reads
import RelationalQuery.Proofs.Query.Writes
import RelationalQuery.Validation

/-!
# The write set of an update

The chain of an update writes what its data names and nothing else.  Its main statement changes the
rows of the table that fulfil the filter, or only selects them if the data gives no value for them.
Then follows one step for each relation that changes related rows, and at last a selection if there
are steps and something is read.

A step reads the main statement alone.  The selection reads tables besides, so it reads a step only
where a table has the name of that step.

Main definitions:

- `Statement.WritesRows` and `Statement.WritesRelated` describe the main statement and a step.
- `WriteContext.UpdateParts` describes the parts of the chain of an update.

Main results:

- `WriteContext.update_parts`: the chain of a compiled update consists of these parts.
- `WriteContext.update_reads_step`: a selection reads a step if a table has its name.
-/

namespace RelationalQuery

open Sql (Assignment Chain Condition Expr Projection Select Statement)

/-! ## Statements -/

/-- The table whose rows a statement changes. -/
def Sql.Statement.changed? : Statement → Option String
  | .insert s => s.table?
  | .update s => s.table?
  | .delete s => s.table?
  | .select _ => none

/-- A statement gives the rows of a table that fulfil a condition the values of data.  Without
values it only selects these rows. -/
inductive Sql.Statement.WritesRows (table : String) (condition? : Option Condition)
    (data : List Datum) : Statement → Prop
  | update {assignments : List Assignment} {returning : List Projection} (nonempty : data ≠ [])
      (write : Assignment.Write assignments none data) :
      WritesRows table condition? data
        (.update ⟨some table, assignments, [], condition?, returning⟩)
  | select {columns : List Projection} (empty : data = []) :
      WritesRows table condition? data
        (.select { Select.ofColumns columns (.table table none) with where? := condition? })

/-- A statement gives the related rows of a relation the values of the data.  It is restricted to
the rows that are related to those of the main statement. -/
inductive Sql.Statement.WritesRelated (main : String) (data : Members) (relation : Relation) :
    Statement → Prop
  | update {assignments : List Assignment}
      (write : Assignment.Write assignments (some relation.relatedTable)
        (relation.relatedData data)) :
      WritesRelated main data relation (.update {
        table? := some relation.relatedTable
        assignments := assignments
        sources := [main]
        where? := some (.equal (.column (.qualified relation.relatedTable relation.sourceColumn))
          (.reference main relation.targetColumn))
        returning := [] })

/-- The parts of the chain of an update: the main statement, the steps, and a selection if there are
steps and something is read. -/
structure WriteContext.UpdateParts (context : WriteContext) (table : Table) (data : Members)
    (condition? : Option Condition) (isProjected : Bool) (name : String) (main : Statement)
    (steps selections : List Statement) : Prop where
  own : main.WritesRows table.name condition? (table.ownData data)
  /-- There is one step for each relation that changes rows, in the order of declaration. -/
  related : List.Forall₂ (Statement.WritesRelated name data)
    (table.relations.filter (·.changesRows data)) steps
  selected : if !steps.isEmpty && isProjected then
      ∃ columns : List Projection, selections = [.select (.ofColumns columns (.table name none))]
    else selections = []
  stepReads : ∀ step ∈ steps, step.reads = [name]
  selectionReads : ∀ selection ∈ selections, ∀ read ∈ selection.reads,
    read = name ∨ (context.repository.table? read).isSome = true

/-! ## What steps read -/

/-- What is stored reads no rows. -/
theorem Datum.IsStored.reads {datum : Datum} {qualifier? : Option String} {expr : Expr}
    (h : datum.IsStored qualifier? expr) : expr.reads = [] ∧ expr.sources = [] := by
  rcases h.cases with ⟨_, _, _, _, rfl⟩ | rfl | rfl | ⟨_, rfl | rfl⟩ <;> exact ⟨rfl, rfl⟩

namespace Sql.Assignment

/-- An assignment reads what is written to its places. -/
theorem reads_eq_nil {assignment : Assignment}
    (h : ∀ write ∈ assignment.writes, write.2.reads = [] ∧ write.2.sources = []) :
    assignment.value.reads = [] ∧ assignment.value.sources = [] := by
  unfold writes at h
  split at h
  · rename_i target entries _ hvalue
    rw [List.forall_mem_map] at h
    rw [hvalue, Expr.reads, Expr.sources]
    clear hvalue
    induction entries with
    | nil => exact ⟨rfl, rfl⟩
    | cons entry rest ih =>
      rw [List.forall_mem_cons] at h
      obtain ⟨hreads, hsources⟩ := ih h.2
      obtain ⟨key, value⟩ := entry
      rw [Expr.entryReads, Expr.entrySources, hreads, hsources, h.1.1, h.1.2]
      exact ⟨rfl, rfl⟩
  · exact h _ (List.mem_singleton_self _)

/-- Assignments that write values read no rows. -/
theorem Write.reads {assignments : List Assignment} {qualifier? : Option String}
    {data : List Datum} (h : Assignment.Write assignments qualifier? data) :
    ∀ assignment ∈ assignments, assignment.value.reads = [] ∧ assignment.value.sources = [] := by
  intro assignment hassignment
  refine reads_eq_nil fun write hwrite => ?_
  obtain ⟨datum, -, hwritten⟩ := h.written assignment hassignment write hwrite
  exact hwritten.2.reads

/-- Assignments that write values refer to no statements. -/
theorem Write.sources_eq_nil {assignments : List Assignment} {qualifier? : Option String}
    {data : List Datum} (h : Assignment.Write assignments qualifier? data) :
    Assignment.sources assignments = [] :=
  List.flatMap_eq_nil_iff.2 fun assignment hassignment => (h.reads assignment hassignment).2

end Sql.Assignment

/-- A step reads the main statement and nothing else. -/
theorem Sql.Statement.WritesRelated.reads {main : String} {data : Members} {relation : Relation}
    {statement : Statement} (h : statement.WritesRelated main data relation) :
    statement.reads = [main] := by
  obtain ⟨write⟩ := h
  rename_i assignments
  have hvalues : (assignments.flatMap fun assignment => assignment.value.reads) = [] :=
    List.flatMap_eq_nil_iff.2 fun assignment hassignment => (write.reads assignment hassignment).1
  rw [Statement.reads, Sql.Update.allSources, write.sources_eq_nil, hvalues]
  rfl

/-! ## Chains -/

namespace AlterationPlan

variable {plan : AlterationPlan} {table : Table} {data : Members}

/-- The main statement writes the values for the rows of the table. -/
theorem ownStatement_writes (write : Assignment.Write plan.own none (table.ownData data))
    (condition? : Option Condition) (returning : List Projection) :
    (plan.ownStatement table.name condition? returning).WritesRows table.name condition?
      (table.ownData data) := by
  unfold ownStatement
  split
  · rename_i hempty
    exact .select (write.eq_nil_iff.1 (List.isEmpty_iff.1 hempty))
  · rename_i hassignments
    exact .update (fun hnil => hassignments (List.isEmpty_iff.2 (write.eq_nil_iff.2 hnil))) write

/-- Each step writes the values for the related rows of its relation. -/
theorem stepStatement_writes {relations : List Relation}
    (write : List.Forall₂ (AlterationStep.Writes data) relations plan.steps) (main : String) :
    List.Forall₂ (Statement.WritesRelated main data) relations
      (plan.steps.map (stepStatement main)) := by
  rw [List.forall₂_map_right_iff]
  refine write.imp ?_
  rintro relation ⟨_, assignments⟩ ⟨hwrite, rfl⟩
  exact .update hwrite

end AlterationPlan

namespace WriteContext

variable {context : WriteContext} {s t : Progress}

/-- The statements of a plan that writes the values of data, and a selection of compiled trees, are
the parts of an update. -/
theorem updateParts {plan : AlterationPlan} {table : Table} {data : Members}
    {select? include? : Option Json} {name : String} {selections : List Statement}
    (own : Assignment.Write plan.own none (table.ownData data))
    (related : List.Forall₂ (AlterationStep.Writes data)
      (table.relations.filter (·.changesRows data)) plan.steps)
    (condition? : Option Condition) (returning : List Projection)
    (selected : if !plan.steps.isEmpty && (select?.isSome || include?.isSome) then
        ∃ columns a b, Returns (context.projection.projections select? include? table.name name)
            a columns b ∧ selections = [.select (.ofColumns columns (.table name none))]
      else selections = []) :
    context.UpdateParts table data condition? (select?.isSome || include?.isSome) name
      (plan.ownStatement table.name condition? returning)
      (plan.steps.map (AlterationPlan.stepStatement name)) selections where
  own := AlterationPlan.ownStatement_writes own condition? returning
  related := AlterationPlan.stepStatement_writes related name
  selected := by
    rw [List.isEmpty_map]
    split at selected
    · rename_i hprojected
      obtain ⟨columns, _, _, -, hselections⟩ := selected
      rw [if_pos hprojected]
      exact ⟨columns, hselections⟩
    · rename_i hunprojected
      rw [if_neg hunprojected]
      exact selected
  stepReads := by
    intro step hstep
    obtain ⟨relation, -, hwrites⟩ :=
      exists_mem_of_forall₂ (AlterationPlan.stepStatement_writes related name) hstep
    exact hwrites.reads
  selectionReads := by
    split at selected
    · obtain ⟨columns, _, _, hcolumns, rfl⟩ := selected
      rw [List.forall_mem_singleton]
      intro read hread
      have hcolumns := Projection.knows_listReads
        (ProjectionContext.reads_of_projections hcolumns)
      simp only [Statement.reads, Select.ofColumns, Select.reads, Sql.FromItem.clauseReads,
        Sql.FromItem.reads, Condition.clauseReads, Sql.OrderTerm.listReads, List.append_nil,
        List.mem_append, List.mem_singleton] at hread
      -- Behind the main statement, only subqueries in the columns read rows.
      rcases hread with rfl | hread
      · exact .inl rfl
      · have hknown := hcolumns read hread
        rw [Repository.catalog, Option.isSome_map] at hknown
        exact .inr hknown
    · rw [selected]
      exact List.forall_mem_nil _

/-- The chain of the statements of a plan that writes the values of data has the parts of an
update. -/
theorem parts_of_chainOf {plan : AlterationPlan} {table : Table} {data : Members}
    {condition? : Option Condition} {select? include? : Option Json} {returning : List Projection}
    {chain : Chain} (own : Assignment.Write plan.own none (table.ownData data))
    (related : List.Forall₂ (AlterationStep.Writes data)
      (table.relations.filter (·.changesRows data)) plan.steps)
    (h : Returns (plan.chainOf context.projection table select? include?
      (plan.ownStatement table.name condition? returning ::
        plan.steps.map (AlterationPlan.stepStatement
          (numberedName context.config.chainStem 0)))) s chain t) :
    ∃ main steps selections, chain.stem = context.config.chainStem ∧
      chain.statements = main :: steps ++ selections ∧
      context.UpdateParts table data condition? (select?.isSome || include?.isSome)
        (chain.nameAt 0) main steps selections := by
  obtain ⟨selections, rfl, hselected⟩ := AlterationPlan.chainOf_cases h
  exact ⟨_, _, selections, rfl, rfl, updateParts own related condition? returning hselected⟩

/-- The chain of a compiled update has the parts of an update for the data that its plan is for. -/
theorem parts_of_update {table : String} {data : Json} {filter? select? include? : Option Json}
    {chain : Chain}
    (compiled : Returns (context.update table data filter? select? include?) s chain t) :
    ∃ info members plan r condition? main steps selections,
      context.repository.table? table = some info ∧ data = .object members ∧
      Returns (context.alterationPlan info members) s plan r ∧
      chain.statements = main :: steps ++ selections ∧
      context.UpdateParts info members condition? (select?.isSome || include?.isSome)
        (chain.nameAt 0) main steps selections := by
  obtain ⟨info, members, plan, r, hknown, hdata, hplan, hchain⟩ := plan_of_update compiled
  obtain ⟨hown, hrelated, -⟩ := alterationPlan_writes hplan
  obtain ⟨condition?, returning, selections, rfl, hselected⟩ := AlterationPlan.chain_cases hchain
  exact ⟨info, members, plan, r, condition?, _, _, selections, hknown, hdata, hplan, rfl,
    updateParts hown hrelated condition? returning hselected⟩

/-- The chain of a compiled update has a main statement for what the data names of the table, steps
for what it names of related rows, and at last a selection. -/
theorem update_parts {table : String} {data : Json} {filter? select? include? : Option Json}
    {chain : Chain}
    (compiled : Returns (context.update table data filter? select? include?) s chain t) :
    ∃ info members condition? aliases main steps selections,
      context.repository.table? table = some info ∧ data = .object members ∧
      Returns (context.projection.conditionOn? filter? table none) s.aliases condition? aliases ∧
      chain.stem = context.config.chainStem ∧ chain.statements = main :: steps ++ selections ∧
      context.UpdateParts info members condition? (select?.isSome || include?.isSome)
        (chain.nameAt 0) main steps selections := by
  obtain ⟨info, members, plan, r, hknown, rfl, hplan, hchain⟩ := plan_of_update compiled
  obtain rfl := Repository.name_of_table? hknown
  obtain ⟨hown, hrelated, haliases⟩ := alterationPlan_writes hplan
  obtain ⟨condition?, aliases, returning, _, _, hcondition, -, -, hchain⟩ :=
    AlterationPlan.chain_steps hchain
  rw [haliases] at hcondition
  obtain ⟨main, steps, selections, hstem, hstatements, hparts⟩ :=
    parts_of_chainOf hown hrelated hchain
  exact ⟨info, members, condition?, aliases, main, steps, selections, hknown, rfl, hcondition,
    hstem, hstatements, hparts⟩

end WriteContext

/-! ## Updates in a library -/

namespace Library

/-- Writes with the default settings and the validator of schemas. -/
def checkedWrites (repository : Repository) : WriteContext :=
  ⟨repository, .default, Validator.ofSchema⟩

/-- Authors with their books in a table of the given name. -/
def authorOf (name : String) : Table :=
  ⟨"author", authorSchema, some "id",
    [⟨"books", name, bookSchema, "author", "id", .pluralInverse⟩]⟩

/-- The declarations of authors and books, where the table of books has the name of a step. -/
def clashingDefinitions : List TableDefinition :=
  [⟨"author", authorSchema, [⟨"author_id", ["id"], .primary⟩],
      [⟨"books", "R1", "author", .secondary, "id", .primary⟩]⟩,
    ⟨"R1", bookSchema, [⟨"book_id", ["id"], .primary⟩], []⟩]

/-- Authors and books, where the table of books has the name of a step. -/
def clashing : Repository :=
  ⟨[⟨"R1", bookSchema, some "id", []⟩, authorOf "R1"]⟩

theorem clashing_accepted : clashing.Accepted := ⟨clashingDefinitions, rfl⟩

/-- A new name for authors, and another year for their books. -/
def revision : Members :=
  [("books", .object [("year", Json.ofUInt64 9)]), ("name", .string "Ada")]

/-- The books of an author. -/
def booksTree : Json := .object [("books", .bool true)]

variable {repository : Repository} {name : String} {related : Table}

/-- The subquery for the books of an author reads their table. -/
theorem compiledBookRows (known : repository.table? name = some related) (outer path : String)
    (aliases : Aliases) :
    ∃ expr, Returns ((checkedWrites repository).projection.relationExpr
        ⟨"books", name, bookSchema, "author", "id", .pluralInverse⟩ none none outer path) aliases
        expr { aliases with projections := aliases.projections + 1 } ∧ name ∈ expr.reads := by
  have hknown : (checkedWrites repository).projection.repository.table name = .ok related :=
    Repository.table_eq_ok_iff.2 known
  have hfilter : (IncludeOptions.ofEntry none).filter? = none := rfl
  apply Exists.intro
  constructor
  · rw [ProjectionContext.relationExpr]
    simp only [returns_bind, returns_monadLift, returns_inProjections, returns_fresh]
    refine ⟨related, _, ⟨hknown, rfl⟩, (), _, ⟨rfl, rfl⟩, _, _, ⟨_, ⟨rfl, rfl⟩, rfl⟩, _, _,
      ProjectionContext.returns_fields_none, ?_⟩
    simp only [hfilter, returns_bind, returns_monadLift, returns_pure]
    exact ⟨_, _, ⟨rfl, rfl⟩, _, _, ⟨rfl, rfl⟩, rfl, rfl⟩
  · exact List.mem_cons_self

/-- So do the fields of an author with books. -/
theorem compiledBookFields (known : repository.table? name = some related) (outer path : String)
    (aliases : Aliases) :
    ∃ expr, Returns ((checkedWrites repository).projection.fields (some booksTree) none
        (authorOf name) outer path) aliases [("books", expr)]
        { aliases with projections := aliases.projections + 1 } ∧ name ∈ expr.reads := by
  obtain ⟨expr, hexpr, hreads⟩ := compiledBookRows known outer (joinPath path "books") aliases
  have hrelation : (authorOf name).relation? "books" =
      some ⟨"books", name, bookSchema, "author", "id", .pluralInverse⟩ := rfl
  have hshown : ¬ Json.bool true = .bool false := by decide
  refine ⟨expr, ?_, hreads⟩
  rw [booksTree, ProjectionContext.fields]
  simp only [Json.membersOf, ProjectionContext.selectedFields, ProjectionContext.includedFields,
    hrelation, hshown, if_false, returns_bind, returns_monadLift, returns_pure]
  exact ⟨_, _, ⟨rfl, rfl⟩, _, _, ⟨(), _, ⟨rfl, rfl⟩, _, _, hexpr, _, _, ⟨rfl, rfl⟩, _, _,
    ⟨rfl, rfl⟩, rfl, rfl⟩, _, _, ⟨rfl, rfl⟩, rfl, rfl⟩

/-- So do the columns of a selection of authors with books. -/
theorem compiledBookColumns (hauthor : repository.table? "author" = some (authorOf name))
    (hbooks : repository.table? name = some related) (outer : String) :
    ∃ column, Returns ((checkedWrites repository).projection.projections (some booksTree) none
      "author" outer) .start [column] ⟨1, 0⟩ ∧ name ∈ column.expr.reads := by
  obtain ⟨expr, hfields, hreads⟩ := compiledBookFields hbooks outer "author" .start
  refine ⟨ProjectionContext.outputColumn ("books", expr), ?_, ?_⟩
  · simp only [ProjectionContext.projections, returns_bind, returns_monadLift, returns_pure]
    exact ⟨_, _, ⟨Repository.table_eq_ok_iff.2 hauthor, rfl⟩, _, _, hfields, rfl, rfl⟩
  · rw [ProjectionContext.expr_outputColumn]
    exact hreads

/-- An author and the books are changed in two statements before the selection. -/
theorem compiledRevisionParts (hauthor : repository.table? "author" = some (authorOf name))
    (hbooks : repository.table? name = some related) :
    ∃ main step selection next, Returns ((checkedWrites repository).update "author"
        (.object revision) none (some booksTree) none) Progress.start
          ⟨"R", [main, step, .select selection]⟩ next ∧ step.changed? = some name ∧
        name ∈ selection.reads := by
  obtain ⟨column, hcolumn, hreads⟩ := compiledBookColumns hauthor hbooks (numberedName "R" 0)
  have hplan : ∃ plan next, Returns ((checkedWrites repository).alterationPlan (authorOf name)
      revision) Progress.start plan next ∧ next.aliases = .start ∧ plan.own.isEmpty = false ∧
        ∃ step, plan.steps = [step] ∧ step.relation.relatedTable = name :=
    ⟨_, _, rfl, rfl, rfl, _, rfl, rfl⟩
  obtain ⟨plan, ⟨_, calls, events⟩, hplan, rfl, hown, step, hsteps, hchanged⟩ := hplan
  have hchain : ∃ main, Returns (plan.chain (checkedWrites repository).projection (authorOf name)
      none (some booksTree) none) ⟨.start, calls, events⟩
        ⟨"R", [main, AlterationPlan.stepStatement (numberedName "R" 0) step,
          .select (.ofColumns [column] (.table (numberedName "R" 0) none))]⟩
            ⟨⟨1, 0⟩, calls, events⟩ := by
    have hselection : Returns (Compilation.naming
        ((checkedWrites repository).projection.projections (some booksTree) none "author"
          (numberedName "R" 0))) ⟨.start, calls, events⟩ [column] ⟨⟨1, 0⟩, calls, events⟩ :=
      returns_naming_of hcolumn
    apply Exists.intro
    simp only [AlterationPlan.chain, AlterationPlan.returning, AlterationPlan.chainOf, hown, hsteps,
      List.isEmpty_cons, Bool.not_false, Option.isSome_some, Bool.true_or, Bool.and_true, if_true,
      Bool.false_eq_true, if_false, returns_bind, returns_pure]
    exact ⟨_, _, rfl, _, _, rfl, _, _, hselection, rfl, rfl⟩
  obtain ⟨main, hchain⟩ := hchain
  have hmembers : (Json.object revision).members? = some revision := rfl
  refine ⟨main, AlterationPlan.stepStatement (numberedName "R" 0) step,
    .ofColumns [column] (.table (numberedName "R" 0) none), ⟨⟨1, 0⟩, calls, events⟩, ?_,
      congrArg some hchanged, ?_⟩
  · simp only [WriteContext.update, returns_bind, returns_monadLift, hmembers]
    exact ⟨_, _, ⟨Repository.table_eq_ok_iff.2 hauthor, rfl⟩, _, _, hplan, hchain⟩
  · exact Select.mem_reads.2 (.inr (.inl ⟨column, List.mem_singleton_self _, hreads⟩))

/-- The selection reads the table that the step changes. -/
theorem compiledRevision (hauthor : repository.table? "author" = some (authorOf name))
    (hbooks : repository.table? name = some related) :
    ∃ main step selection next, Returns ((checkedWrites repository).update "author"
        (.object revision) none (some booksTree) none) Progress.start
          ⟨"R", [main, step, selection]⟩ next ∧ name ∈ selection.reads := by
  obtain ⟨main, step, selection, next, hcompiled, -, hreads⟩ :=
    compiledRevisionParts hauthor hbooks
  exact ⟨main, step, .select selection, next, hcompiled, hreads⟩

end Library

namespace WriteContext

/-- The update of an author and of the books has a main statement, one step and a selection. -/
theorem update_parts_library :
    ∃ main step selection next, Returns ((Library.checkedWrites Library.repository).update "author"
        (.object Library.revision) none (some Library.booksTree) none) Progress.start
          ⟨"R", [main, step, selection]⟩ next ∧
      (Library.checkedWrites Library.repository).UpdateParts Library.author Library.revision none
        true "R0" main [step] [selection] := by
  have hauthor : Library.repository.table? "author" = some (Library.authorOf "book") := rfl
  have hbooks : Library.repository.table? "book" = some Library.book := rfl
  obtain ⟨main, step, selection, next, hcompiled, -⟩ := Library.compiledRevision hauthor hbooks
  obtain ⟨info, members, condition?, aliases, first, steps, selections, hinfo, hmembers,
    hcondition, -, hstatements, hparts⟩ := update_parts hcompiled
  obtain rfl : Library.author = info := Option.some.inj hinfo
  obtain rfl : Library.revision = members := Json.object.inj hmembers
  obtain rfl : condition? = none := (returns_pure.1 hcondition).1
  obtain ⟨only, rfl⟩ : ∃ only, steps = [only] :=
    List.length_eq_one_iff.1 hparts.related.length_eq.symm
  obtain ⟨rfl, rfl, rfl⟩ : main = first ∧ step = only ∧ [selection] = selections := by
    simpa using hstatements
  exact ⟨main, step, selection, next, hcompiled, hparts⟩

/-- A selection reads a step if a table has its name.  Here the table of books is named like the
step that changes them. -/
theorem update_reads_step :
    Library.clashing.Accepted ∧
      ∃ main step selection next, Returns ((Library.checkedWrites Library.clashing).update "author"
          (.object Library.revision) none (some Library.booksTree) none) Progress.start
            ⟨"R", [main, step, selection]⟩ next ∧
        Chain.nameAt ⟨"R", [main, step, selection]⟩ 1 ∈ selection.reads := by
  have hauthor : Library.clashing.table? "author" = some (Library.authorOf "R1") := rfl
  have hbooks : Library.clashing.table? "R1" = some _ := rfl
  have hname : numberedName "R" 1 = "R1" := by decide
  simp only [Chain.nameAt, hname]
  exact ⟨Library.clashing_accepted, Library.compiledRevision hauthor hbooks⟩

end WriteContext

end RelationalQuery
