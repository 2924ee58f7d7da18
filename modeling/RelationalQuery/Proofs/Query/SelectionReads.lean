import RelationalQuery.Proofs.Query.Rows
import RelationalQuery.Proofs.Query.WriteSet

/-!
# What selections after writes read

The statements of a chain see all tables as they were before it.  What the chain changes is seen
only in the rows that its statements return.  So the selection at the end of a chain shows a change
if it reads the rows of the statement that made it, and misses it if it reads the changed table.

The selection after an insert reads the new row and the created rows of the relations that its trees
name from their statements.  Below these relations, in filters, and along other relations it reads
tables.  The selection after an update reads the changed rows from the main statement; the steps
return nothing, and it reads all related rows from tables.

Main definitions:

- `Table.createdRows` are the statements for the rows that the data of an insert describes.
- `CreatedRows.Collects` says that the compiler collects them by relation.
- `Table.InsertReads` says what the selection after an insert reads.

Main results:

- `WriteContext.insert_selection_reads`: the selection after an insert reads this and nothing else.
- `WriteContext.insert_selection_misses`: a selection that misses a row that is inserted before it.
- `WriteContext.update_selection_reads`: the selection after an update reads the main statement and
  the tables that its trees lead to.
- `WriteContext.update_selection_misses`: a selection that misses a change that is made before it.
-/

namespace RelationalQuery

open Sql (Chain Condition Expr FromItem Projection Select Statement)

/-! ## Created rows -/

/-- The statements for the rows before and after the new row, each with its relation. -/
def Table.createdRows (table : Table) (data : Members) (nameAt : Nat → String) :
    List (Relation × String) :=
  ((table.parentRows data).zipIdx.map fun entry => (entry.1.relation, nameAt entry.2)) ++
    (table.childRows data).zipIdx.map fun entry =>
      (entry.1.relation, nameAt ((table.parentRows data).length + 1 + entry.2))

/-- The selection after an insert into a table reads the rows of a name. -/
inductive Table.InsertReads (table : Table) (repository : Repository) (own : String)
    (created : List (Relation × String)) (select? include? : Option Json) (name : String) : Prop
  /-- It reads the new row. -/
  | own (named : name = own)
  /-- It reads a created row of a relation that the trees show. -/
  | created {relation : Relation} (mem : (relation, name) ∈ created)
      (shown : isShown select? include? relation.name = true)
  /-- The trees of such a relation lead to a table. -/
  | below {relation : Relation} {source : String} (mem : (relation, source) ∈ created)
      (shown : isShown select? include? relation.name = true)
      (leads : relation.LeadsBelow repository name
        (((treeMembers select?).lookup relation.name).bind ownTree?)
        ((treeMembers include?).lookup relation.name))
  /-- The other relations of the trees lead to a table. -/
  | others (leads : (ProjectionTask.fields
      (withoutNames (created.map (·.1.name)) select?)
      (withoutNames (created.map (·.1.name)) include?)).LeadsTo repository name table)

namespace CreatedRows

/-- The compiler collects the statements of each relation, and of no others. -/
structure Collects (created : List CreatedRows) (given : List (Relation × String)) : Prop where
  mem_iff : ∀ relation source, (relation, source) ∈ given ↔
    ∃ rows ∈ created, rows.relation = relation ∧ source ∈ rows.sources
  nonempty : ∀ rows ∈ created, rows.sources ≠ []

/-- A statement is added to those of its relation. -/
theorem mem_sources_add {created : List CreatedRows} {relation other : Relation}
    {source name : String}
    (same : ∀ rows ∈ created, rows.relation.name = relation.name → rows.relation = relation) :
    (∃ rows ∈ add created relation source, rows.relation = other ∧ name ∈ rows.sources) ↔
      (∃ rows ∈ created, rows.relation = other ∧ name ∈ rows.sources) ∨
        (relation = other ∧ name = source) := by
  induction created with
  | nil => simp [add]
  | cons first rest ih =>
    rw [List.forall_mem_cons] at same
    unfold add
    split
    · rename_i hname
      have hrelation := same.1 hname
      simp only [List.mem_cons, exists_eq_or_imp, List.mem_append, List.not_mem_nil, or_false,
        hrelation]
      rw [and_or_left, or_right_comm]
    · simp only [List.mem_cons, exists_eq_or_imp, ih same.2, or_assoc]

/-- Every relation has a statement. -/
theorem nonempty_add {created : List CreatedRows} {relation : Relation} {source : String}
    (h : ∀ rows ∈ created, rows.sources ≠ []) :
    ∀ rows ∈ add created relation source, rows.sources ≠ [] := by
  induction created with
  | nil => exact List.forall_mem_singleton.2 (List.cons_ne_nil _ _)
  | cons first rest ih =>
    rw [List.forall_mem_cons] at h
    unfold add
    split
    · exact List.forall_mem_cons.2 ⟨List.append_ne_nil_of_right_ne_nil _ (List.cons_ne_nil _ _), h.2⟩
    · exact List.forall_mem_cons.2 ⟨h.1, ih h.2⟩

namespace Collects

variable {created : List CreatedRows} {given : List (Relation × String)}

/-- Collected rows come from given ones of their relation. -/
theorem exists_mem (h : Collects created given) {rows : CreatedRows} (mem : rows ∈ created) :
    ∃ source, (rows.relation, source) ∈ given := by
  obtain ⟨source, hsource⟩ := List.exists_mem_of_ne_nil _ (h.nonempty rows mem)
  exact ⟨source, (h.mem_iff _ _).2 ⟨rows, mem, rfl, hsource⟩⟩

/-- A further statement is collected, if relations have names of their own. -/
theorem add {entry : Relation × String} (h : Collects created given)
    (same : ∀ other ∈ given, other.1.name = entry.1.name → other.1 = entry.1) :
    Collects (CreatedRows.add created entry.1 entry.2) (given ++ [entry]) := by
  refine ⟨fun relation source => ?_, nonempty_add h.nonempty⟩
  have hsame : ∀ rows ∈ created, rows.relation.name = entry.1.name → rows.relation = entry.1 := by
    intro rows hrows
    obtain ⟨other, hother⟩ := h.exists_mem hrows
    exact same _ hother
  rw [mem_sources_add hsame, ← h.mem_iff, List.mem_append, List.mem_singleton, Prod.ext_iff,
    eq_comm (a := relation)]

/-- All statements are collected, if relations have names of their own. -/
theorem foldl {entries : List (Relation × String)} (h : Collects created given)
    (same : ∀ first ∈ given ++ entries, ∀ second ∈ given ++ entries,
      first.1.name = second.1.name → first.1 = second.1) :
    Collects (entries.foldl (fun created entry => CreatedRows.add created entry.1 entry.2) created)
      (given ++ entries) := by
  induction entries generalizing created given with
  | nil => rwa [List.append_nil]
  | cons entry rest ih =>
    rw [List.append_cons] at same ⊢
    refine ih (h.add fun other hother => ?_) same
    exact same other (by simp [hother]) entry (by simp)

end Collects

end CreatedRows

/-- The compiler finds a relation in the trees that show it. -/
theorem isShown_eq (select? include? : Option Json) (name : String) :
    isShown select? include? name = isSelected select? include? name := by
  rw [isShown, isSelected, isNamed, isNamed, shownAs?_eq, shownAs?_eq, treeMembers_eq,
    treeMembers_eq]

/-- The compiler removes the entries of created relations from a tree. -/
theorem withoutNames_eq {created : List CreatedRows} {given : List (Relation × String)}
    (collects : CreatedRows.Collects created given) (tree? : Option Json) :
    withoutNames (given.map (·.1.name)) tree? = withoutCreated created tree? := by
  match tree? with
  | some (.object members) =>
    have hnames : ∀ name : String, (given.map (·.1.name)).contains name =
        created.any (·.relation.name == name) := by
      intro name
      rw [Bool.eq_iff_iff, List.contains_iff_mem, List.mem_map, List.any_eq_true]
      constructor
      · rintro ⟨⟨relation, source⟩, hentry, rfl⟩
        obtain ⟨rows, hrows, rfl, -⟩ := (collects.mem_iff _ _).1 hentry
        exact ⟨rows, hrows, beq_self_eq_true _⟩
      · rintro ⟨rows, hrows, hname⟩
        obtain ⟨source, hentry⟩ := collects.exists_mem hrows
        exact ⟨_, hentry, beq_iff_eq.1 hname⟩
    simp only [withoutNames, withoutCreated, hnames, Option.map_some]
  | none | some .null | some (.bool _) | some (.number _) | some (.string _) | some (.array _) =>
    rfl

/-! ## Selections of created rows -/

/-- A selection from a single statement reads it, and what its columns read. -/
theorem Sql.Select.mem_reads_ofColumns {columns : List Projection} {source name : String} :
    name ∈ (Select.ofColumns columns (.table source none)).reads ↔
      name = source ∨ ∃ column ∈ columns, name ∈ column.expr.reads := by
  simp [Select.mem_reads, Select.ofColumns, FromItem.clauseReads, FromItem.reads,
    Condition.clauseReads]

section

variable {context : ProjectionContext} {table : Table} {name : String} {a b : Aliases}

/-- Collected rows are read from all their statements. -/
theorem CreatedRows.reads_rows (created : CreatedRows) (label : String) :
    (created.rows label).reads = created.sources := by
  unfold rows
  split
  · rename_i source hsources
    rw [hsources]
    rfl
  · rfl

/-- The subquery over created rows reads their statements, and the tables that its trees lead to. -/
theorem CreatedRows.mem_reads_expr {created : CreatedRows} {selection? included? : Option Json}
    {path : String} {value : Expr}
    (compiled : Returns (created.expr context selection? included? path) a value b) :
    name ∈ value.reads ↔ name ∈ created.sources ∨
      created.relation.LeadsBelow context.repository name selection? included? := by
  obtain ⟨related, object, condition?, order, c, m, orderPath, hknown, hderives, hfilter, horder,
    rfl⟩ := expr_eq_of_returns compiled
  have hplain : ∀ term ∈ order, term.expr.reads = [] := by
    rcases horder with rfl | horder
    · exact List.forall_mem_nil _
    · exact reads_orderTerms horder
  rw [Expr.reads, mem_reads_relatedSelect hplain, reads_rows, Expr.reads, Expr.mem_entryReads,
    hderives.mem_reads, hfilter.mem_reads, IncludeOptions.ofEntry_eq]
  refine or_congr_right ⟨fun h => ⟨related, hknown, h⟩, ?_⟩
  rintro ⟨other, hother, h⟩
  obtain rfl := Option.some.inj (hknown.symm.trans hother)
  exact h

/-- The output columns of created relations read the statements of those that the trees name, and
the tables that their trees lead to. -/
theorem mem_reads_createdColumns {created : List CreatedRows} {select? include? : Option Json}
    {columns : List Projection}
    (compiled : Returns (createdColumns context table created select? include?) a columns b) :
    (∃ column ∈ columns, name ∈ column.expr.reads) ↔ ∃ rows ∈ created,
      isShown select? include? rows.relation.name = true ∧ (name ∈ rows.sources ∨
        rows.relation.LeadsBelow context.repository name
          (((treeMembers select?).lookup rows.relation.name).bind ownTree?)
          ((treeMembers include?).lookup rows.relation.name)) := by
  simp only [isShown_eq, treeMembers_eq, ownTree?_eq_selectTree?]
  have hcolumns := forall₂_of_returns_mapM (R := fun rows column =>
    (name ∈ rows.sources ∨ rows.relation.LeadsBelow context.repository name
        (((Json.membersOf select?).lookup rows.relation.name).bind selectTree?)
        ((Json.membersOf include?).lookup rows.relation.name)) ↔ name ∈ column.expr.reads) compiled
    fun rows _ _ column _ hcolumn => by
      simp only [returns_bind, returns_pure] at hcolumn
      obtain ⟨value, _, hvalue, rfl, -⟩ := hcolumn
      exact (CreatedRows.mem_reads_expr hvalue).symm
  rw [← exists_mem_iff_of_forall₂ hcolumns]
  simp only [List.mem_filter, and_assoc]

/-- The selection after an insert reads what it should, and nothing else. -/
theorem mem_reads_createdSelect (known : context.repository.table? table.name = some table)
    {own : String} {created : List CreatedRows} {given : List (Relation × String)}
    (collects : CreatedRows.Collects created given) {select? include? : Option Json}
    {select : Select}
    (compiled : Returns (createdSelect context table own created select? include?) a select b) :
    name ∈ select.reads ↔
      table.InsertReads context.repository own given select? include? name := by
  simp only [createdSelect, returns_bind, returns_pure] at compiled
  obtain ⟨columns, _, hcolumns, relations, _, hrelations, rfl, -⟩ := compiled
  simp only [Select.mem_reads_ofColumns, List.mem_append, or_and_right, exists_or,
    ProjectionContext.mem_reads_of_projections known hcolumns, ← withoutNames_eq collects,
    mem_reads_createdColumns hrelations]
  constructor
  · rintro (hown | hothers | ⟨rows, hrows, hselected, hsource | hbelow⟩)
    · exact .own hown
    · exact .others hothers
    · exact .created ((collects.mem_iff _ _).2 ⟨rows, hrows, rfl, hsource⟩) hselected
    · obtain ⟨source, hsource⟩ := collects.exists_mem hrows
      exact .below hsource hselected hbelow
  · rintro (hown | ⟨hmem, hselected⟩ | ⟨hmem, hselected, hbelow⟩ | hothers)
    · exact .inl hown
    · obtain ⟨rows, hrows, rfl, hsource⟩ := (collects.mem_iff _ _).1 hmem
      exact .inr (.inr ⟨rows, hrows, hselected, .inl hsource⟩)
    · obtain ⟨rows, hrows, rfl, -⟩ := (collects.mem_iff _ _).1 hmem
      exact .inr (.inr ⟨rows, hrows, hselected, .inr hbelow⟩)
    · exact .inr (.inl hothers)

end

/-! ## Selections after an insert -/

/-- Rows with the names of their statements depend on the relations of the rows alone. -/
theorem named_relations {Row : Type} (relation : Row → Relation) (nameAt : Nat → String)
    (rows : List Row) : (rows.zipIdx.map fun entry => (relation entry.1, nameAt entry.2)) =
      (rows.map relation).zipIdx.map fun entry => (entry.1, nameAt entry.2) := by
  rw [List.zipIdx_map, List.map_map]
  rfl

/-- The statements for created rows are those for the rows that the data describes. -/
theorem InsertPlan.created_eq_foldl {plan : InsertPlan} {table : Table} {data : Members}
    (describes : WriteContext.Describes table data plan) (stem : String) :
    plan.created stem = (table.createdRows data (numberedName stem)).foldl
      (fun created entry => CreatedRows.add created entry.1 entry.2) [] := by
  have hparents := relations_of_creates describes.parents
  have hchildren := relations_of_creates (describes.children.imp fun _ _ hrefers => hrefers.1)
  have hlength := describes.parents.length_eq
  simp only [created, Table.createdRows, childName, hlength,
    named_relations NewRow.relation, named_relations DescribedRow.relation, hparents, hchildren,
    named_relations NewRow.relation
      fun index => numberedName stem (plan.parents.length + 1 + index),
    named_relations DescribedRow.relation
      fun index => numberedName stem (plan.parents.length + 1 + index)]

/-- Described rows belong to the relations of the table. -/
theorem Table.relation?_of_mem_ofEntries {table : Table} {data : Members}
    {entries : List (Relation × Json)} (included : entries ⊆ table.relationMembers data)
    {row : DescribedRow} (h : row ∈ DescribedRow.ofEntries entries) :
    table.relation? row.relation.name = some row.relation := by
  obtain ⟨entry, hentry, hrow⟩ := List.mem_flatMap.1 h
  obtain ⟨_, -, rfl⟩ := List.mem_map.1 hrow
  exact WriteContext.relation?_of_mem_relationEntries (included hentry)

/-- Created rows belong to the relations of the table. -/
theorem Table.relation?_of_mem_createdRows {table : Table} {data : Members}
    {nameAt : Nat → String} {entry : Relation × String}
    (h : entry ∈ table.createdRows data nameAt) :
    table.relation? entry.1.name = some entry.1 := by
  rcases List.mem_append.1 h with h | h
  · obtain ⟨row, hrow, rfl⟩ := List.mem_map.1 h
    refine relation?_of_mem_ofEntries (fun _ hmem => (List.mem_filter.1 hmem).1)
      (List.mem_filter.1 (List.fst_mem_of_mem_zipIdx hrow)).1
  · obtain ⟨row, hrow, rfl⟩ := List.mem_map.1 h
    exact relation?_of_mem_ofEntries (fun _ hmem => (List.mem_filter.1 hmem).1)
      (List.fst_mem_of_mem_zipIdx hrow)

/-- The plan collects the statements for created rows. -/
theorem InsertPlan.collects_created {plan : InsertPlan} {table : Table} {data : Members}
    (describes : WriteContext.Describes table data plan) (stem : String) :
    CreatedRows.Collects (plan.created stem) (table.createdRows data (numberedName stem)) := by
  rw [created_eq_foldl describes]
  have hnone : CreatedRows.Collects [] [] := ⟨by simp, List.forall_mem_nil _⟩
  refine hnone.foldl fun first hfirst second hsecond hname => ?_
  have hrelation := Table.relation?_of_mem_createdRows hfirst
  rw [hname, Table.relation?_of_mem_createdRows hsecond] at hrelation
  exact (Option.some.inj hrelation).symm

namespace WriteContext

variable {context : WriteContext} {s t : Progress}

/-- The selection after a compiled insert reads the new row and the created rows of the relations
that the trees name from their statements, and the tables that the trees lead to otherwise. -/
theorem insert_selection_reads {table : String} {data : Json} {select? include? : Option Json}
    {chain : Chain} (distinct : data.hasDistinctNames = true)
    (compiled : Returns (context.insert table data select? include?) s chain t) :
    ∃ info members parents own children selections,
      context.repository.table? table = some info ∧ data = .object members ∧
      chain.statements = parents ++ own :: children ++ selections ∧
      InsertParts info members (select?.isSome || include?.isSome) chain.nameAt parents own children
        selections ∧
      ∀ selection, .select selection ∈ selections → ∀ name, name ∈ selection.reads ↔
        info.InsertReads context.repository (chain.nameAt parents.length)
          (info.createdRows members chain.nameAt) select? include? name := by
  obtain ⟨info, members, plan, _, _, _, hknown, rfl, hplan, hchain⟩ := plan_of_insert compiled
  have hdescribes := insertPlan_describes distinct hplan
  have hself := Repository.table?_self hknown
  obtain ⟨parents, own, children, selections, -, hstatements, hparts, hselected⟩ :=
    InsertPlan.parts_of_chain hdescribes hchain
  refine ⟨info, members, parents, own, children, selections, hknown, rfl, hstatements, hparts, ?_⟩
  intro selection hselection name
  obtain ⟨_, _, hselect⟩ := hselected selection hselection
  exact mem_reads_createdSelect hself (InsertPlan.collects_created hdescribes _) hselect

end WriteContext

namespace Library

/-- A new book with its writer. -/
def firstBook : Members :=
  [("writer", .object [("id", Json.ofUInt64 7), ("name", .string "Ada")]), ("id", Json.ofUInt64 1),
    ("year", Json.ofUInt64 9)]

/-- The writer of a book with all books. -/
def writerTree : Json := .object [("writer", booksTree)]

/-- The subquery over the writer of a new book reads the table of books. -/
theorem compiledWriter (path : String) : ∃ value next,
    Returns (CreatedRows.expr ⟨writer, ["R0"]⟩ (checkedWrites repository).projection
      (some booksTree) none path) .start value next ∧ "book" ∈ value.reads := by
  have hbooks : repository.table? "book" = some book := rfl
  obtain ⟨expr, hfields, hreads⟩ := compiledBookFields hbooks (numberedName "S" 0) path ⟨1, 0⟩
  have hoptions : IncludeOptions.parse none path = .ok (IncludeOptions.ofEntry none) := rfl
  refine ⟨.subquery (relatedSelect true (.ofEntry none) (.object [("books", expr)])
    (.aliased "R0" (numberedName "S" 0)) none []), ⟨2, 0⟩, ?_, ?_⟩
  · simp only [CreatedRows.expr, returns_bind, returns_monadLift, returns_inProjections,
      returns_fresh]
    exact ⟨_, _, ⟨hoptions, rfl⟩, _, _, ⟨_, ⟨rfl, rfl⟩, rfl⟩, author, _, ⟨rfl, rfl⟩, _, _, hfields,
      rfl⟩
  · rw [Expr.reads, mem_reads_relatedSelect (List.forall_mem_nil _), Expr.reads,
      Expr.mem_entryReads]
    exact .inr (.inl ⟨_, List.mem_singleton_self _, hreads⟩)

/-- So does the selection after the insert. -/
theorem compiledWriterSelect : ∃ select next,
    Returns (createdSelect (checkedWrites repository).projection book (numberedName "R" 1)
      [⟨writer, ["R0"]⟩] (some writerTree) none) .start select next ∧ "book" ∈ select.reads := by
  obtain ⟨value, next, hvalue, hreads⟩ := compiledWriter (joinPath "book" "writer")
  have hcolumns : Returns ((checkedWrites repository).projection.projections (some (.object []))
      none "book" (numberedName "R" 1)) .start [] .start := by
    simp only [ProjectionContext.projections, returns_bind, returns_monadLift]
    refine ⟨book, _, ⟨rfl, rfl⟩, [], _, ?_, rfl⟩
    rw [ProjectionContext.fields]
    simp only [Json.membersOf, ProjectionContext.selectedFields, ProjectionContext.includedFields]
    rfl
  have hrelations : Returns (createdColumns (checkedWrites repository).projection book
      [⟨writer, ["R0"]⟩] (some writerTree) none) .start [.aliased value "writer"] next := by
    have hselected : ([⟨writer, ["R0"]⟩] : List CreatedRows).filter (fun rows =>
        isSelected (some writerTree) none rows.relation.name) = [⟨writer, ["R0"]⟩] := rfl
    rw [createdColumns, hselected]
    simp only [List.mapM_cons, List.mapM_nil, returns_bind, returns_pure]
    exact ⟨_, _, ⟨_, _, hvalue, rfl, rfl⟩, _, _, ⟨rfl, rfl⟩, rfl, rfl⟩
  refine ⟨.ofColumns ([] ++ [.aliased value "writer"]) (.table (numberedName "R" 1) none), next,
    ?_, ?_⟩
  · simp only [createdSelect, returns_bind, returns_pure]
    exact ⟨_, _, hcolumns, _, _, hrelations, rfl, rfl⟩
  · exact Select.mem_reads_ofColumns.2 (.inr ⟨_, List.mem_singleton_self _, hreads⟩)

/-- The insert of a new book with its writer is compiled with this selection. -/
theorem compiledFirstBook : ∃ parent own selection next,
    Returns ((checkedWrites repository).insert "book" (.object firstBook) (some writerTree) none)
      Progress.start ⟨"R", [parent, own, .select selection]⟩ next ∧ own.changed? = some "book" ∧
        "book" ∈ selection.reads := by
  have hplan : ∃ plan next, Returns ((checkedWrites repository).insertPlan book firstBook)
      Progress.start plan next ∧ next.aliases = .start ∧ plan.isSingle = false ∧
        plan.children = [] ∧ plan.created "R" = [⟨writer, ["R0"]⟩] ∧
          ∃ parent, plan.parents = [parent] := ⟨_, _, rfl, rfl, rfl, rfl, rfl, _, rfl⟩
  obtain ⟨plan, ⟨_, calls, events⟩, hplan, rfl, hseveral, hchildren, hcreated, parent, hparents⟩ :=
    hplan
  have hname : plan.ownName "R" = numberedName "R" 1 := by
    rw [InsertPlan.ownName, hparents]
    rfl
  obtain ⟨select, next, hselect, hreads⟩ := compiledWriterSelect
  rw [← hname, ← hcreated] at hselect
  have hchain : ∃ own, Returns (plan.chain (checkedWrites repository).projection book
      (some writerTree) none) .start
        ⟨"R", [InsertPlan.parentStatement (some writerTree) none parent, own, .select select]⟩
          next ∧ own.changed? = some "book" := by
    apply Exists.intro
    simp only [InsertPlan.chain, hseveral, hparents, hchildren, Option.isSome_some, Bool.true_or,
      Bool.false_eq_true, if_true, if_false, returns_bind, returns_pure]
    exact ⟨⟨_, _, hselect, rfl, rfl⟩, rfl⟩
  obtain ⟨own, hchain, hchanged⟩ := hchain
  refine ⟨InsertPlan.parentStatement (some writerTree) none parent, own, select,
    ⟨next, calls, events⟩, ?_, hchanged, hreads⟩
  have hmembers : (Json.object firstBook).members? = some firstBook := rfl
  simp only [WriteContext.insert, returns_bind, returns_monadLift, hmembers]
  exact ⟨book, _, ⟨rfl, rfl⟩, plan, _, hplan, returns_naming_of hchain⟩

end Library

namespace WriteContext

/-- The selection after the insert of a book reads the book and its writer from their statements. -/
theorem insert_selection_reads_library :
    (Json.object Library.firstBook).hasDistinctNames = true ∧
      ∃ parent own selection next, Returns ((Library.checkedWrites Library.repository).insert "book"
          (.object Library.firstBook) (some Library.writerTree) none) Progress.start
            ⟨"R", [parent, own, .select selection]⟩ next ∧
        ∀ name, name ∈ selection.reads ↔ Library.book.InsertReads Library.repository "R1"
          [(Library.writer, "R0")] (some Library.writerTree) none name := by
  have hdistinct : (Json.object Library.firstBook).hasDistinctNames = true := by decide
  obtain ⟨parent, own, selection, next, hcompiled, -, -⟩ := Library.compiledFirstBook
  refine ⟨hdistinct, parent, own, selection, next, hcompiled, ?_⟩
  obtain ⟨info, members, parents, new, children, selections, hinfo, hmembers, hstatements, hparts,
    hreads⟩ := insert_selection_reads hdistinct hcompiled
  obtain rfl : Library.book = info := Option.some.inj hinfo
  obtain rfl : Library.firstBook = members := Json.object.inj hmembers
  obtain ⟨first, rfl⟩ : ∃ first, parents = [first] :=
    List.length_eq_one_iff.1 hparts.before.length_eq.symm
  obtain rfl : children = [] := List.length_eq_zero_iff.1 hparts.after.length_eq.symm
  obtain ⟨-, -, rfl⟩ : parent = first ∧ own = new ∧ [.select selection] = selections := by
    simpa using hstatements
  have hname : numberedName "R" 1 = "R1" := by decide
  have hcreated : Library.book.createdRows Library.firstBook (numberedName "R") =
      [(Library.writer, "R0")] := rfl
  rw [← hname, ← hcreated]
  exact hreads selection (List.mem_singleton_self _)

/-- A selection that leads from the writer of a new book to all books reads the table of books,
which the chain inserts into. -/
theorem insert_selection_misses :
    Library.repository.Accepted ∧
      ∃ parent own selection next, Returns ((Library.checkedWrites Library.repository).insert "book"
          (.object Library.firstBook) (some Library.writerTree) none) Progress.start
            ⟨"R", [parent, own, .select selection]⟩ next ∧
        own.changed? = some "book" ∧ "book" ∈ selection.reads :=
  ⟨Library.accepted, Library.compiledFirstBook⟩

end WriteContext

/-! ## Selections after an update -/

namespace WriteContext

variable {context : WriteContext} {s t : Progress}

/-- The selection after a compiled update reads the main statement and the tables that the trees
lead to, whether or not a step of the chain changes them. -/
theorem update_selection_reads {table : String} {data : Json}
    {filter? select? include? : Option Json} {chain : Chain}
    (compiled : Returns (context.update table data filter? select? include?) s chain t) :
    ∃ info members condition? main steps selections,
      context.repository.table? table = some info ∧ data = .object members ∧
      chain.statements = main :: steps ++ selections ∧
      context.UpdateParts info members condition? (select?.isSome || include?.isSome)
        (chain.nameAt 0) main steps selections ∧
      ∀ selection, .select selection ∈ selections → ∀ name, name ∈ selection.reads ↔
        name = chain.nameAt 0 ∨
          (ProjectionTask.fields select? include?).LeadsTo context.repository name info := by
  obtain ⟨info, members, plan, _, hknown, rfl, hplan, hchain⟩ := plan_of_update compiled
  have hself := Repository.table?_self hknown
  obtain ⟨hown, hrelated, -⟩ := alterationPlan_writes hplan
  obtain ⟨condition?, returning, selections, rfl, hselected⟩ := AlterationPlan.chain_cases hchain
  refine ⟨info, members, condition?, _, _, selections, hknown, rfl, rfl,
    updateParts hown hrelated condition? returning hselected, ?_⟩
  intro selection hselection name
  split at hselected
  · obtain ⟨columns, _, _, hcolumns, rfl⟩ := hselected
    obtain rfl := Statement.select.inj (List.mem_singleton.1 hselection)
    have hleads : (∃ column ∈ columns, name ∈ column.expr.reads) ↔
        (ProjectionTask.fields select? include?).LeadsTo context.repository name info :=
      ProjectionContext.mem_reads_of_projections hself hcolumns
    rw [← hleads]
    exact Select.mem_reads_ofColumns
  · simp [hselected] at hselection

/-- The selection after the update of an author reads the author, and the table of books. -/
theorem update_selection_reads_library :
    ∃ main step selection next, Returns ((Library.checkedWrites Library.repository).update "author"
        (.object Library.revision) none (some Library.booksTree) none) Progress.start
          ⟨"R", [main, step, .select selection]⟩ next ∧
      ∀ name, name ∈ selection.reads ↔ name = "R0" ∨
        (ProjectionTask.fields (some Library.booksTree) none).LeadsTo Library.repository name
          Library.author := by
  have hauthor : Library.repository.table? "author" = some (Library.authorOf "book") := rfl
  have hbooks : Library.repository.table? "book" = some Library.book := rfl
  obtain ⟨main, step, selection, next, hcompiled, -, -⟩ :=
    Library.compiledRevisionParts hauthor hbooks
  refine ⟨main, step, selection, next, hcompiled, ?_⟩
  obtain ⟨info, members, condition?, first, steps, selections, hinfo, hmembers, hstatements, hparts,
    hreads⟩ := update_selection_reads hcompiled
  obtain rfl : Library.author = info := Option.some.inj hinfo
  obtain rfl : Library.revision = members := Json.object.inj hmembers
  obtain ⟨only, rfl⟩ : ∃ only, steps = [only] :=
    List.length_eq_one_iff.1 hparts.related.length_eq.symm
  obtain ⟨-, -, rfl⟩ : main = first ∧ step = only ∧ [.select selection] = selections := by
    simpa using hstatements
  exact hreads selection (List.mem_singleton_self _)

/-- A selection of the books of an author reads the table of books, which a step of the chain
changes. -/
theorem update_selection_misses :
    Library.repository.Accepted ∧ ∃ main step selection next,
      Returns ((Library.checkedWrites Library.repository).update "author"
          (.object Library.revision) none (some Library.booksTree) none) Progress.start
        ⟨"R", [main, step, .select selection]⟩ next ∧
      step.changed? = some "book" ∧ "book" ∈ selection.reads := by
  have hauthor : Library.repository.table? "author" = some (Library.authorOf "book") := rfl
  have hbooks : Library.repository.table? "book" = some Library.book := rfl
  exact ⟨Library.accepted, Library.compiledRevisionParts hauthor hbooks⟩

end WriteContext

end RelationalQuery
