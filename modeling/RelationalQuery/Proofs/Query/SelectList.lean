import RelationalQuery.Proofs.Query.DeclaredKeys
import RelationalQuery.Proofs.Sql.Rendered

/-!
# The columns that a selection returns

With a select tree, a selection has a column for each name that the tree shows and for each relation
that the include tree adds, and no column besides.  There are two exceptions.  The selection after
an insert also has a column for a created relation that the select tree hides and the include tree
shows.  And if nothing is shown there are no columns, and a selection without columns is rendered
with an asterisk, so that it returns everything.

Main definitions:

- `Query.Shows` says which names a query shows, and `Query.Selects` that a selection has columns for
  them.
- `Sql.Select.RendersItems` says that a rendered selection has an item for each column.

Main results:

- `Sql.Select.rendersItems_of_tokens`: a selection without columns returns everything, and any other
  one its columns.
- `names_nodup_of_createdSelect`: no name is repeated in the selection after an insert.
- `WriteContext.selection_lists_shown`: a compiled query ends with a selection of the shown names.
- `WriteContext.hidden_select_returns_all`: a tree that hides its only key returns everything.
-/

namespace RelationalQuery

open Sql (Chain Projection Select Statement Token)

/-! ## Rendered lists -/

namespace Sql

/-- The rendered columns of a list are those of its items, one by one. -/
theorem Projection.items_of_listTokens {columns : List Projection} {items : List (List Token)}
    (h : Projection.listTokens columns = .ok items) :
    List.Forall₂ (fun column item => Projection.listTokens [column] = .ok [item])
      columns items := by
  induction columns generalizing items with
  | nil =>
    rw [listTokens, Except.ok.injEq] at h
    rw [← h]
    exact .nil
  | cons column rest ih =>
    obtain ⟨expr, alias?⟩ := column
    simp only [listTokens, bind_eq_ok_iff, pure_eq_ok_iff] at h
    obtain ⟨tokens, htokens, item, hitem, others, hothers, rfl⟩ := h
    refine .cons ?_ (ih hothers)
    simp only [listTokens, bind_eq_ok_iff, pure_eq_ok_iff]
    exact ⟨tokens, htokens, item, hitem, [], rfl, rfl⟩

/-- A rendered selection has an item for each column between the word and the clause of its rows, or
an asterisk if there are none. -/
structure Select.RendersItems (select : Select) (tokens : List Token) (items : List (List Token)) :
    Prop where
  each : List.Forall₂ (fun column item => Projection.listTokens [column] = .ok [item])
    select.columns items
  tokens : ∃ rows rest, FromItem.clauseTokens select.from? = .ok rows ∧
    tokens = .fixed "SELECT " ::
      (if items = [] then [.fixed "*"] else Token.separated ", " items) ++ (rows ++ rest)

/-- A selection without columns returns everything, and any other one its columns. -/
theorem Select.rendersItems_of_tokens {select : Select} {tokens : List Token}
    (h : select.tokens = .ok tokens) : ∃ items, select.RendersItems tokens items := by
  obtain ⟨columns, from?, where?, order, limit?, offset?⟩ := select
  simp only [Select.tokens, bind_eq_ok_iff, pure_eq_ok_iff] at h
  obtain ⟨items, hitems, rows, hrows, condition, -, terms, -, rfl⟩ := h
  refine ⟨items, Projection.items_of_listTokens hitems, rows,
    condition ++ (Token.clause " ORDER BY " terms ++
      (Sql.countTokens " LIMIT " limit? ++ Sql.countTokens " OFFSET " offset?)), hrows, ?_⟩
  simp only [List.isEmpty_iff, List.append_assoc, List.cons_append]

/-- A rendered chain ends with its last statement. -/
theorem Chain.tokens_of_getLast? {chain : Chain} {body : Statement} {tokens : List Token}
    (last : chain.statements.getLast? = some body) (h : chain.tokens = .ok tokens) :
    ∃ before own, body.tokens = .ok own ∧ tokens = before ++ own := by
  obtain ⟨named, final, own, hstatements, hown, hnamed⟩ := Chain.tokens_eq_ok h
  rw [hstatements, List.getLast?_concat, Option.some.injEq] at last
  subst last
  rcases hnamed with ⟨-, rfl⟩ | ⟨parts, -, rfl⟩
  · exact ⟨[], tokens, hown, rfl⟩
  · refine ⟨.fixed "WITH " :: Token.separated ", " parts ++ [.fixed " "], own, hown, ?_⟩
    rw [List.append_assoc, List.singleton_append]

end Sql

/-! ## Names without repetition -/

/-- No name is shown twice by a tree that does not repeat it. -/
theorem nodup_shownNames {members : Members} (distinct : members.keys.Nodup) :
    (shownNames members).Nodup :=
  distinct.sublist (List.filter_sublist.map _)

/-- The names that two trees without repeated names output are distinct, if one of them is a select
tree. -/
theorem ProjectionTask.nodup_names_fields {table : Table} {select? include? : Option Json}
    (selected : select?.isSome = true) (distinctSelect : (Json.membersOf select?).keys.Nodup)
    (distinctInclude : (Json.membersOf include?).keys.Nodup) :
    ((ProjectionTask.fields select? include?).names table).Nodup := by
  obtain ⟨tree, rfl⟩ := Option.isSome_iff_exists.1 selected
  rw [names, Option.isNone_some, if_neg Bool.false_ne_true, List.nil_append]
  refine List.nodup_append.2 ⟨nodup_shownNames distinctSelect, ?_, ?_⟩
  · exact nodup_shownNames (distinctInclude.sublist (List.filter_sublist.map _))
  · rintro name hshown _ hadded rfl
    obtain ⟨member, hmember, rfl⟩ := List.mem_map.1 hshown
    obtain ⟨entry, hentry, hsame⟩ := List.mem_map.1 hadded
    have hnew := (List.mem_filter.1 (List.mem_filter.1 hentry).1).2
    have hnamed : member.1 ∈ (Json.membersOf (some tree)).keys :=
      List.mem_map_of_mem (List.mem_filter.1 hmember).1
    rw [hsame, List.contains_iff_mem.2 hnamed] at hnew
    cases hnew

namespace CreatedRows

variable {created : List CreatedRows} {relation : Relation} {source name : String}

/-- A statement adds the name of its relation, unless it is there. -/
theorem names_add : (add created relation source).map (·.relation.name) =
    if relation.name ∈ created.map (·.relation.name) then created.map (·.relation.name)
    else created.map (·.relation.name) ++ [relation.name] := by
  induction created with
  | nil => rfl
  | cons first rest ih =>
    unfold add
    by_cases hname : first.relation.name = relation.name
    · rw [if_pos hname, if_pos (by rw [List.map_cons, hname]; exact List.mem_cons_self)]
      rfl
    · simp only [hname, if_false, List.map_cons, ih, List.mem_cons, Ne.symm hname, false_or]
      split <;> rfl

/-- Created rows are collected under names of their own. -/
theorem nodup_names_add (distinct : (created.map (·.relation.name)).Nodup) :
    ((add created relation source).map (·.relation.name)).Nodup := by
  rw [names_add]
  split
  · exact distinct
  · rename_i hfresh
    refine List.nodup_append.2 ⟨distinct, List.nodup_singleton _, ?_⟩
    rintro name hname _ hmem rfl
    rw [List.mem_singleton.1 hmem] at hname
    exact hfresh hname

/-- A further statement adds the name of its relation. -/
theorem mem_names_add : name ∈ (add created relation source).map (·.relation.name) ↔
    name ∈ created.map (·.relation.name) ∨ relation.name = name := by
  rw [names_add]
  split
  · rename_i hthere
    refine (or_iff_left_of_imp ?_).symm
    rintro rfl
    exact hthere
  · rw [List.mem_append, List.mem_singleton, eq_comm (a := name)]

/-- Statements that are collected add the names of their relations, and no name is repeated. -/
theorem names_foldl {entries : List (Relation × String)}
    (distinct : (created.map (·.relation.name)).Nodup) :
    ((entries.foldl (fun created entry => add created entry.1 entry.2) created).map
      (·.relation.name)).Nodup ∧
    ∀ name, name ∈ (entries.foldl (fun created entry => add created entry.1 entry.2) created).map
        (·.relation.name) ↔
      name ∈ created.map (·.relation.name) ∨ ∃ entry ∈ entries, entry.1.name = name := by
  induction entries generalizing created with
  | nil => exact ⟨distinct, fun name => by simp⟩
  | cons entry rest ih =>
    obtain ⟨hnodup, hnames⟩ := ih (nodup_names_add distinct)
    refine ⟨hnodup, fun name => ?_⟩
    rw [List.foldl_cons, hnames, mem_names_add, or_assoc]
    simp only [List.mem_cons, exists_eq_or_imp]

end CreatedRows

/-! ## What is shown -/

/-- The data of an insert describes a row of the relation of a name. -/
def Table.DescribesRelated (table : Table) (data : Members) (name : String) : Prop :=
  ∃ row ∈ table.parentRows data ++ table.childRows data, row.relation.name = name

/-- A query on a table shows a name: the select tree does, the include tree adds it, or an insert
creates rows of a relation that the include tree reveals. -/
def Query.Shows (query : Query) (table : Table) (name : String) : Prop :=
  name ∈ shownNames (Json.membersOf query.select?) ∨
    name ∈ addedNames (Json.membersOf query.include?) (Json.membersOf query.select?).keys ∨
    ∃ insert, query = .insert insert ∧
      table.DescribesRelated (Json.membersOf (some insert.data)) name ∧
      Reveals insert.select? insert.include? name

/-- The query only selects rows. -/
def Query.isSelection : Query → Bool
  | .select _ | .findOne _ => true
  | _ => false

/-- The columns of a selection are the names that a query shows, each of them once. -/
structure Query.Outputs (query : Query) (table : Table) (columns : List Projection) : Prop where
  shown : ∀ name, name ∈ columns.map Projection.name ↔ query.Shows table name
  distinct : (columns.map Projection.name).Nodup

/-- A selection for a query has the columns that the query shows.  It has none if nothing is shown,
or a constant after an update. -/
structure Query.Selects (query : Query) (table : Table) (select : Select) : Prop where
  outputs : ∀ name, query.Shows table name → query.Outputs table select.columns
  nothing : (∀ name, ¬ query.Shows table name) → select.columns = [] ∨
    (∃ update, query = .update update) ∧ select.columns = [.plain (.raw "1")]

/-- Columns that are what a query shows are none if it shows nothing. -/
theorem Query.Outputs.selects {query : Query} {table : Table} {select : Select}
    (outputs : query.Outputs table select.columns) : query.Selects table select where
  outputs _ _ := outputs
  nothing hnothing := by
    refine .inl (List.eq_nil_iff_forall_not_mem.2 fun column hcolumn => ?_)
    exact hnothing _ ((outputs.shown _).1 (List.mem_map_of_mem hcolumn))

/-- With a select tree, two trees output what the one shows and what the other adds. -/
theorem ProjectionTask.names_fields_of_selected {table : Table} {select? include? : Option Json}
    (selected : select?.isSome = true) : (ProjectionTask.fields select? include?).names table =
      shownNames (Json.membersOf select?) ++
        addedNames (Json.membersOf include?) (Json.membersOf select?).keys := by
  obtain ⟨tree, rfl⟩ := Option.isSome_iff_exists.1 selected
  rfl

section

variable {context : ProjectionContext} {table : Table} {select? include? : Option Json}
  {a b : Aliases}

/-- The columns of compiled trees are those that a query shows, unless it is an insert. -/
theorem Query.outputs_of_projections {query : Query} {name scope : String}
    {columns : List Projection} (known : context.repository.table? name = some table)
    (plain : ∀ insert, query ≠ .insert insert) (selected : query.select?.isSome = true)
    (distinctSelect : (Json.membersOf query.select?).keys.Nodup)
    (distinctInclude : (Json.membersOf query.include?).keys.Nodup)
    (h : Returns (context.projections query.select? query.include? name scope) a columns b) :
    query.Outputs table columns := by
  have hnames := ProjectionContext.names_of_projections known h
  refine ⟨fun name => ?_, ?_⟩
  · rw [hnames, ProjectionTask.names_fields_of_selected selected, List.mem_append, Shows]
    refine or_congr_right (or_iff_left ?_).symm
    rintro ⟨insert, hinsert, -⟩
    exact plain insert hinsert
  · rw [hnames]
    exact ProjectionTask.nodup_names_fields selected distinctSelect distinctInclude

/-- No name is repeated in the selection after an insert. -/
theorem names_nodup_of_createdSelect {created : List CreatedRows} {parent : String}
    {select : Select} (known : context.repository.table? table.name = some table)
    (selected : select?.isSome = true) (distinctSelect : (Json.membersOf select?).keys.Nodup)
    (distinctInclude : (Json.membersOf include?).keys.Nodup)
    (distinct : (created.map (·.relation.name)).Nodup)
    (h : Returns (createdSelect context table parent created select? include?) a select b) :
    (select.columns.map Projection.name).Nodup := by
  obtain ⟨tree, rfl⟩ := Option.isSome_iff_exists.1 selected
  simp only [createdSelect, returns_bind, returns_pure] at h
  obtain ⟨columns, _, hcolumns, relations, _, hrelations, rfl, rfl⟩ := h
  have hselect : (Json.membersOf (withoutCreated created (some tree))).keys.Nodup :=
    nodup_keys_withoutCreated distinctSelect
  have hinclude : (Json.membersOf (withoutCreated created include?)).keys.Nodup :=
    nodup_keys_withoutCreated distinctInclude
  change ((columns ++ relations).map Projection.name).Nodup
  rw [List.map_append, ProjectionContext.names_of_projections known hcolumns,
    names_createdColumns hrelations]
  refine List.nodup_append.2 ⟨?_, ?_, ?_⟩
  · exact ProjectionTask.nodup_names_fields rfl hselect hinclude
  · exact distinct.sublist (List.filter_sublist.map _)
  · rintro name hname _ hmem rfl
    obtain ⟨rows, hrows, rfl⟩ := List.mem_map.1 hmem
    have hcreated : CreatedRows.isCreated created rows.relation.name = true :=
      CreatedRows.isCreated_iff.2 ⟨rows, (List.mem_filter.1 hrows).1, rfl⟩
    rw [ProjectionContext.mem_names_fields hselect hinclude, request?_withoutCreated,
      if_pos hcreated, withoutCreated_eq_none_iff] at hname
    rcases hname with ⟨hnone, -⟩ | hnone
    · cases hnone
    · cases hnone

end

/-- What an insert creates besides the new row is collected by name, once for each described
relation. -/
theorem InsertPlan.names_created {plan : InsertPlan} {table : Table} {data : Members}
    (describes : WriteContext.Describes table data plan) (stem : String) :
    ((plan.created stem).map (·.relation.name)).Nodup ∧
      ∀ name, CreatedRows.isCreated (plan.created stem) name = true ↔
        table.DescribesRelated data name := by
  have hrows : ∀ (rows : List DescribedRow) (nameAt : Nat → String) (name : String),
      (∃ entry ∈ rows.zipIdx.map fun row => (row.1.relation, nameAt row.2), entry.1.name = name) ↔
        ∃ row ∈ rows, row.relation.name = name := by
    intro rows nameAt name
    conv_rhs => rw [← List.zipIdx_map_fst 0 rows]
    simp only [List.mem_map, exists_exists_and_eq_and]
  rw [created_eq_foldl describes, Table.createdRows]
  have hnone : (([] : List CreatedRows).map (·.relation.name)).Nodup := List.nodup_nil
  refine ⟨(CreatedRows.names_foldl hnone).1, fun name => ?_⟩
  rw [CreatedRows.isCreated_iff, Table.DescribesRelated, ← List.mem_map,
    (CreatedRows.names_foldl hnone).2]
  simp only [List.map_nil, List.not_mem_nil, false_or, List.mem_append, or_and_right, exists_or]
  exact or_congr (hrows _ _ name)
    (hrows _ (fun index => numberedName stem ((table.parentRows data).length + 1 + index)) name)

namespace WriteContext

variable {context : WriteContext} {table : String} {chain : Chain} {select : Select}
  {s t : Progress}

/-- The selection after an insert outputs what the query shows. -/
theorem outputs_of_insert {query : InsertQuery} {info : Table}
    (known : context.repository.table? table = some info)
    (distinct : query.data.hasDistinctNames = true) (selected : query.select?.isSome = true)
    (distinctSelect : (Json.membersOf query.select?).keys.Nodup)
    (distinctInclude : (Json.membersOf query.include?).keys.Nodup)
    (compiled : Returns (context.insert table query.data query.select? query.include?) s chain t)
    (mem : .select select ∈ chain.statements) :
    (Query.insert query).Outputs info select.columns := by
  obtain ⟨found, members, plan, _, _, _, hfound, hdata, hplan, hchain⟩ := plan_of_insert compiled
  obtain rfl : found = info := Option.some.inj (hfound.symm.trans known)
  have hself : context.projection.repository.table? found.name = some found :=
    Repository.table?_self known
  rw [hdata] at distinct
  obtain ⟨hnodup, hcreated⟩ := InsertPlan.names_created (insertPlan_describes distinct hplan)
    context.projection.config.chainStem
  obtain ⟨_, _, hselect⟩ := InsertPlan.createdSelect_of_mem_chain hchain mem
  refine ⟨fun name => ?_,
    names_nodup_of_createdSelect hself selected distinctSelect distinctInclude hnodup hselect⟩
  rw [mem_names_createdSelect_iff hself distinctSelect distinctInclude hselect, hcreated,
    ProjectionTask.names_fields_of_selected selected, List.mem_append, or_assoc]
  refine or_congr_right (or_congr_right ?_)
  constructor
  · intro hrevealed
    refine ⟨query, rfl, ?_⟩
    rw [hdata]
    exact hrevealed
  · rintro ⟨_, ⟨⟩, hrevealed⟩
    rw [hdata] at hrevealed
    exact hrevealed

/-- The last statement of an update, if it is a selection, outputs what the query shows, or a
constant if it reads the table itself and nothing is shown. -/
theorem selects_of_update {query : UpdateQuery} {info : Table}
    (known : context.repository.table? table = some info) (selected : query.select?.isSome = true)
    (distinctSelect : (Json.membersOf query.select?).keys.Nodup)
    (distinctInclude : (Json.membersOf query.include?).keys.Nodup)
    (compiled : Returns (context.update table query.data query.filter? query.select?
      query.include?) s chain t)
    (last : chain.statements.getLast? = some (.select select)) :
    (Query.update query).Selects info select := by
  obtain ⟨found, members, plan, _, hfound, -, -, hchain⟩ := plan_of_update compiled
  obtain rfl : found = info := Option.some.inj (hfound.symm.trans known)
  have hself : context.projection.repository.table? found.name = some found :=
    Repository.table?_self known
  have houtputs : ∀ {scope a columns b}, Returns (context.projection.projections query.select?
      query.include? found.name scope) a columns b → (Query.update query).Outputs found columns :=
    fun hcolumns => Query.outputs_of_projections hself nofun selected distinctSelect distinctInclude
      hcolumns
  obtain ⟨condition?, _, returning, _, _, -, hreturning, -, hselection⟩ :=
    AlterationPlan.chain_steps hchain
  obtain ⟨selections, rfl, hselected⟩ := AlterationPlan.chainOf_cases hselection
  have hprojected : (query.select?.isSome || query.include?.isSome) = true := by
    rw [selected, Bool.true_or]
  rw [hprojected, Bool.and_true] at hselected
  rcases AlterationPlan.returning_cases hreturning with
    ⟨hsteps, -⟩ | ⟨hsteps, -, hown⟩ | ⟨-, hunprojected, -⟩
  · rw [if_pos (by simpa using hsteps)] at hselected
    obtain ⟨columns, _, _, hcolumns, rfl⟩ := hselected
    rw [List.getLast?_append_of_ne_nil _ (List.cons_ne_nil _ _), List.getLast?_singleton,
      Option.some_inj, Statement.select.injEq] at last
    rw [← last]
    exact (houtputs hcolumns).selects
  · replace hown := houtputs hown
    rw [hsteps] at hselected
    obtain rfl : selections = [] := hselected
    rw [hsteps, List.map_nil, List.append_nil, List.getLast?_singleton, Option.some_inj,
      AlterationPlan.ownStatement] at last
    split at last
    · rw [Statement.select.injEq] at last
      rw [← last]
      cases hempty : returning with
      | nil =>
        rw [hempty] at hown
        refine ⟨fun name hshown => ?_, fun _ => .inr ⟨⟨query, rfl⟩, rfl⟩⟩
        cases (hown.shown name).2 hshown
      | cons column rest =>
        rw [hempty] at hown
        exact hown.selects
    · cases last
  · rw [hprojected] at hunprojected
    cases hunprojected

/-- The last statement of a query, if it is a selection, outputs what the query shows. -/
theorem selects_of_chain {query : Query} (selected : query.select?.isSome = true)
    (distinctSelect : (Json.membersOf query.select?).keys.Nodup)
    (distinctInclude : (Json.membersOf query.include?).keys.Nodup)
    (distinctData : ∀ insert, query = .insert insert → insert.data.hasDistinctNames = true)
    (compiled : Returns (context.chain table query) s chain t) :
    ∃ info, context.repository.table? table = some info ∧
      (query.isSelection = true → ∃ select, chain.statements = [.select select]) ∧
      ∀ select, chain.statements.getLast? = some (.select select) → query.Selects info select := by
  cases query with
  | insert query =>
    obtain ⟨info, _, _, _, _, _, hknown, -⟩ := plan_of_insert compiled
    refine ⟨info, hknown, by rintro ⟨⟩, fun select last => Query.Outputs.selects ?_⟩
    exact outputs_of_insert hknown (distinctData query rfl) selected distinctSelect distinctInclude
      compiled (List.mem_of_getLast? last)
  | update query =>
    obtain ⟨info, _, _, _, hknown, -⟩ := plan_of_update compiled
    refine ⟨info, hknown, by rintro ⟨⟩, fun select last => ?_⟩
    exact selects_of_update hknown selected distinctSelect distinctInclude compiled last
  | select trees | findOne trees =>
    obtain ⟨select, _, _, hselect, rfl⟩ := single_cases compiled
    obtain ⟨info, columns, _, _, _, hknown, hcolumns, -, -, rfl⟩ :=
      ProjectionContext.select_cases hselect
    refine ⟨info, hknown, fun _ => ⟨_, rfl⟩, fun other last => Query.Outputs.selects ?_⟩
    obtain rfl := Statement.select.inj (Option.some.inj last)
    exact Query.outputs_of_projections hknown (by rintro _ ⟨⟩) selected distinctSelect
      distinctInclude hcolumns
  | delete query =>
    have hlooksUp : (Query.delete query).looksUpTable = true := by
      change query.select?.isSome = true at selected
      simp only [Query.looksUpTable, selected, Bool.or_true, Bool.true_or]
    obtain ⟨info, hknown⟩ := known_of_chain compiled hlooksUp
    obtain ⟨delete, _, _, -, rfl⟩ := single_cases compiled
    refine ⟨info, hknown, by rintro ⟨⟩, fun select last => ?_⟩
    cases last
  | count query => cases selected

/-- A selection outputs what is shown.  If a query with a select tree is compiled, and its last
statement is a selection, then the rendered text ends with that selection, which has an item for
each shown name and no other one.  Only if nothing is shown may the text have an asterisk. -/
theorem selection_lists_shown {query : Query} {compiled : CompiledQuery}
    (selected : query.select?.isSome = true)
    (distinctSelect : (Json.membersOf query.select?).keys.Nodup)
    (distinctInclude : (Json.membersOf query.include?).keys.Nodup)
    (distinctData : ∀ insert, query = .insert insert → insert.data.hasDistinctNames = true)
    (h : Returns (context.compile table query) s compiled t) :
    ∃ info chain tokens next, context.repository.table? table = some info ∧
      Returns (context.chain table query) s chain next ∧
      compiled = .ofTokens context.config.placeholderStyle tokens ∧
      (query.isSelection = true → ∃ select, chain.statements = [.select select]) ∧
      ∀ select, chain.statements.getLast? = some (.select select) →
        query.Selects info select ∧
        ∃ before own items, tokens = before ++ own ∧ select.RendersItems own items := by
  obtain ⟨chain, tokens, next, hchain, htokens, rfl⟩ := compile_cases h
  obtain ⟨info, hknown, hsingle, hselects⟩ :=
    selects_of_chain selected distinctSelect distinctInclude distinctData hchain
  refine ⟨info, chain, tokens, next, hknown, hchain, rfl, hsingle, fun select last => ?_⟩
  obtain ⟨before, own, hown, rfl⟩ := Chain.tokens_of_getLast? last htokens
  obtain ⟨items, hitems⟩ := Select.rendersItems_of_tokens hown
  exact ⟨hselects select last, before, own, items, rfl, hitems⟩

end WriteContext

namespace Library

/-- A new book with its writer, which is selected with all of the books. -/
def writtenBook : Query := .insert ⟨.object firstBook, some writerTree, none⟩

/-- A selection of authors whose tree hides a column and shows nothing. -/
def hiddenAuthors : SelectQuery :=
  { SelectQuery.all with select? := some (.object [("id", .bool false)]) }

/-- A selection that hides its only name has no columns. -/
theorem returns_hiddenAuthors : Returns (writes.chain "author" (.select hiddenAuthors))
    Progress.start (.single "R" (.select (.ofColumns [] (.table "author" none))))
      Progress.start := by
  have hcolumns : Returns (writes.projection.projections hiddenAuthors.select? none "author"
      "author") .start [] .start := by
    simp only [ProjectionContext.projections, returns_bind, returns_monadLift]
    refine ⟨author, _, ⟨rfl, rfl⟩, [], _, ?_, rfl⟩
    rw [hiddenAuthors, ProjectionContext.fields]
    simp only [Json.membersOf, ProjectionContext.selectedFields, ProjectionContext.includedFields]
    rfl
  have hselect : Returns (writes.projection.select "author" hiddenAuthors) .start
      (.ofColumns [] (.table "author" none)) .start := by
    simp only [ProjectionContext.select, returns_bind, returns_monadLift, returns_pure]
    exact ⟨author, _, ⟨rfl, rfl⟩, [], _, hcolumns, none, _, rfl, [], _, ⟨rfl, rfl⟩, rfl, rfl⟩
  simp only [WriteContext.chain, returns_bind, returns_pure]
  exact ⟨_, _, returns_naming_of hselect, rfl, rfl⟩

end Library

namespace WriteContext

/-- The selection after the insert of a book lists its writer, whose name is shown. -/
theorem selection_lists_shown_library :
    Library.writtenBook.select?.isSome = true ∧
      (Json.membersOf Library.writtenBook.select?).keys.Nodup ∧
      (Json.membersOf Library.writtenBook.include?).keys.Nodup ∧
      (∀ insert, Library.writtenBook = .insert insert → insert.data.hasDistinctNames = true) ∧
      ∃ compiled next, Returns ((Library.checkedWrites Library.repository).compile "book"
          Library.writtenBook) Progress.start compiled next ∧
        ∃ (select : Select) (before own : List Token) (items : List (List Token)),
          compiled = .ofTokens Config.default.placeholderStyle (before ++ own) ∧
          select.RendersItems own items ∧
          Library.writtenBook.Shows Library.book "writer" ∧
          Library.writtenBook.Outputs Library.book select.columns := by
  have hselected : Library.writtenBook.select?.isSome = true := rfl
  have hselect : (Json.membersOf Library.writtenBook.select?).keys.Nodup := by decide
  have hinclude : (Json.membersOf Library.writtenBook.include?).keys.Nodup := by decide
  have hdata : ∀ insert, Library.writtenBook = .insert insert →
      insert.data.hasDistinctNames = true := by
    rintro _ ⟨⟩
    decide
  obtain ⟨parent, own, selection, r, hinsert, -, -⟩ := Library.compiledFirstBook
  have hchain : Returns ((Library.checkedWrites Library.repository).chain "book"
      Library.writtenBook) Progress.start ⟨"R", [parent, own, .select selection]⟩ r := hinsert
  have hnamed : (Library.checkedWrites Library.repository).projection.IsNamed := Library.named
  have hcoherent : (Library.checkedWrites Library.repository).repository.Coherent :=
    Library.accepted.coherent
  have hrendered := (succeeds_chain hcoherent hnamed hchain).2.2 (by decide)
  obtain ⟨compiled, next, hcompiled⟩ := (returns_compile_iff hchain).2 hrendered
  obtain ⟨info, chain, tokens, _, hinfo, hother, rfl, -, hlists⟩ :=
    selection_lists_shown hselected hselect hinclude hdata hcompiled
  obtain rfl : Library.book = info := Option.some.inj hinfo
  obtain ⟨hsame, -⟩ := Prod.mk.inj (hchain.symm.trans hother)
  obtain rfl := Except.ok.inj hsame
  obtain ⟨hselects, before, own, items, rfl, hitems⟩ := hlists selection rfl
  have hshows : Library.writtenBook.Shows Library.book "writer" :=
    .inl (List.mem_singleton_self _)
  exact ⟨hselected, hselect, hinclude, hdata, _, next, hcompiled, selection, before, own, items,
    rfl, hitems, hshows, hselects.outputs "writer" hshows⟩

/-- A tree that hides a column and shows nothing is compiled to a selection of everything. -/
theorem hidden_select_returns_all : Library.repository.Accepted ∧
    (∀ name, ¬ (Query.select Library.hiddenAuthors).Shows Library.author name) ∧
    ∃ next, Returns (Library.writes.compile "author" (.select Library.hiddenAuthors)) Progress.start
      ⟨"SELECT * FROM \"author\"", []⟩ next := by
  refine ⟨Library.accepted, ?_, ?_⟩
  · rintro name (hshown | hadded | ⟨insert, hinsert, -⟩)
    · cases hshown
    · cases hadded
    · cases hinsert
  · exact compiles_of_chain Library.returns_hiddenAuthors rfl

end WriteContext

end RelationalQuery
