import RelationalQuery.Proofs.Projection.Keyed
import RelationalQuery.Proofs.Query.NullFree
import RelationalQuery.Proofs.Sql.ZeroCharacter

/-!
# The literals of queries

The text of a compiled query is sent to a server that reads it up to the first character zero.
Names are checked for this character, and values are bound.  The keys of objects are not checked: in
a filter, in a select tree and in a patch, a key inside a column is written as a literal.  So the
text holds the character zero exactly where such a key does.

Main definitions:

- `Query.literalKeys` are the keys of a query that its text may write as literals.

Main results:

- `WriteContext.keyed_chain`: the literals of a compiled query are fixed texts, such keys, or names
  of columns that stand next to them.
- `WriteContext.nul_mem_sql`: when the text of a compiled query holds the character zero.
- `WriteContext.exists_nul_mem_sql`: a key of a filter brings it into a text.
-/

namespace RelationalQuery

open Sql (Assignment Chain Condition Delete Expr FromItem Keyed KeyedEntry OrderTerm Patch
  Projection Record Select Statement nul)

section

variable {P : String → Prop}

/-! ## Written values -/

/-- What holds a value writes no key. -/
theorem Sql.Expr.Holds.keyed {expr : Expr} {value : Json} (h : expr.Holds value) :
    Keyed P expr.pieces := by
  have hnull : Keyed P Patch.jsonNull.pieces := by
    rw [Patch.jsonNull, Expr.pieces]
    exact .raw (by decide)
  have hcast : ∀ parameter : Parameter,
      Keyed P (Expr.cast (.parameter parameter) "jsonb").pieces := by
    intro parameter
    rw [Expr.pieces, Expr.pieces]
    exact .type (by decide)
  unfold Sql.Expr.Holds at h
  split at h
  · rcases h with rfl | rfl
    · rw [Expr.pieces]
      exact .nil
    · exact hnull
  · obtain ⟨hint?, rfl | rfl⟩ := h
    · rw [Expr.pieces]
      exact .nil
    · exact hcast _

/-- The literals in a record that passed the validator are keyed. -/
theorem keyed_of_isPassed {validator : Validator} {schema : ObjectSchema} {links : List String}
    {calls : List ValidationCall} {record : Record}
    (h : record.IsPassed validator schema links calls) :
    ∀ entry ∈ record.entries, Keyed P entry.2.pieces := by
  intro entry hentry
  obtain ⟨_, -, -, hholds⟩ := h entry hentry
  exact hholds.keyed

/-- What stores a value writes at most the key of its place. -/
theorem Datum.IsStored.keyed {datum : Datum} {qualifier? : Option String} {expr : Expr}
    (h : datum.IsStored qualifier? expr) (own : ∀ key ∈ datum.place.key?, P key) :
    Keyed P expr.pieces := by
  unfold Datum.IsStored at h
  split at h
  · obtain ⟨field, _, _, _, -, -, -, -, rfl⟩ := h
    have htype : Keyed P [.type (numericType field)] := by
      unfold numericType
      split <;> exact .type (by decide)
    rw [Expr.pieces, Sql.ColumnRef.operationPieces]
    refine Keyed.append (.column ?_) ?_
    · simpa [Place.current] using own
    · split
      · exact .nil
      · exact htype.append htype
  · exact h.keyed

namespace Sql.Assignment

/-- At most one key of a column is assigned, and only whole columns are merged. -/
structure IsFlat (assignment : Assignment) : Prop where
  target : assignment.target.path.length ≤ 1
  merged : assignment.target.path = [] →
    ∀ column entries, assignment.value = .merge column entries → column.path = []

/-- An assignment to a column is flat unless it merges inside a key. -/
theorem isFlat_column {column : String} {value : Expr}
    (h : ∀ target entries, value = .merge target entries → target.path = []) :
    (Assignment.column column value).IsFlat :=
  ⟨Nat.zero_le _, fun _ => h⟩

/-- A literal value is no merge. -/
theorem isFlat_column_of_isLiteral {column : String} {value : Expr} (h : value.IsLiteral) :
    (Assignment.column column value).IsFlat := by
  refine isFlat_column fun target entries hmerge => ?_
  rcases h with rfl | ⟨_, rfl⟩ <;> cases hmerge

/-- The assignments of a patch are flat. -/
theorem isFlat_patch {patch : Patch} {nested : ObjectSchema} :
    ∀ assignment ∈ patch.assignments nested, assignment.IsFlat := by
  unfold Patch.assignments
  split
  · rw [Patch.subscriptAssignments, List.forall_mem_map]
    exact fun entry _ => ⟨Nat.le_refl _, fun hpath => absurd hpath (List.cons_ne_nil _ _)⟩
  · rw [List.forall_mem_singleton, Patch.mergeAssignment]
    refine isFlat_column fun target entries hmerge => ?_
    rw [← (Expr.merge.inj hmerge).1]

/-- A flat assignment has the keys of the places that it writes. -/
theorem keyed {assignment : Assignment} (flat : assignment.IsFlat)
    (writes : ∀ write ∈ assignment.writes,
      (∀ key ∈ write.1.key?, P key) ∧ Keyed P write.2.pieces) : Keyed P assignment.pieces := by
  obtain ⟨⟨qualifier?, name, path⟩, value⟩ := assignment
  obtain ⟨htarget, hmerged⟩ := flat
  rw [Assignment.pieces]
  unfold Assignment.writes at writes
  split at writes
  · rename_i column entries hpath hvalue
    obtain rfl : path = [] := hpath
    obtain rfl : value = .merge column entries := hvalue
    rw [List.forall_mem_map] at writes
    have hentries : Keyed P (Expr.entryPieces entries) :=
      .entries fun entry hentry => .of_key ((writes entry hentry).1 _ rfl) (writes entry hentry).2
    have hcolumn : ∀ key ∈ column.path, P key := by
      rw [hmerged rfl _ _ rfl]
      exact List.forall_mem_nil _
    rw [Expr.pieces]
    exact (Keyed.plainColumn _ _).append
      (((Keyed.column hcolumn).append (.fixedLiteral (by decide))).append hentries)
  · rw [List.forall_mem_singleton] at writes
    refine Keyed.append (.column ?_) writes.2
    -- A path of at most one key is the key of the place.
    match path, htarget, writes.1 with
    | [], _, _ => exact List.forall_mem_nil _
    | [key], _, hkey => exact List.forall_mem_singleton.2 (hkey key rfl)

end Sql.Assignment

end

/-! ## Keys in data -/

/-- The keys of the places of an entry are keys inside it. -/
theorem ObjectSchema.data_keys (schema : ObjectSchema) (entry : String × Json) :
    ∀ datum ∈ schema.data entry, ∀ key ∈ datum.place.key?, key ∈ entry.2.allKeys := by
  unfold ObjectSchema.data
  split
  · rename_i nested members hpatched
    obtain ⟨field, -, hpatched⟩ := Option.bind_eq_some_iff.1 hpatched
    obtain ⟨-, -, hvalue⟩ := Field.patch?_eq_some_iff.1 hpatched
    rw [List.forall_mem_map, hvalue, Json.allKeys]
    rintro member hmember _ ⟨⟩
    exact Json.mem_memberKeys_of_mem hmember
  · rw [List.forall_mem_singleton]
    nofun

/-- The keys of the places of related rows are keys of the data. -/
theorem Relation.relatedData_keys (relation : Relation) (data : Members) :
    ∀ datum ∈ relation.relatedData data, ∀ key ∈ datum.place.key?, key ∈ Json.memberKeys data := by
  unfold relatedData
  split
  · exact List.forall_mem_nil _
  · rename_i payload hpayload
    obtain ⟨value, hvalue, hmembers⟩ := Option.bind_eq_some_iff.1 hpayload
    split
    · split
      · rw [List.forall_mem_singleton]
        nofun
      · exact List.forall_mem_nil _
    · intro datum hdatum key hkey
      obtain ⟨entry, hentry, hdatum⟩ := List.mem_flatMap.1 hdatum
      have hinner := ObjectSchema.data_keys _ entry datum hdatum key hkey
      have hobject : value = .object payload := by
        cases value <;> simp_all [Json.members?]
      refine Json.allKeys_subset_of_mem (Entries.mem_of_lookup hvalue) ?_
      rw [hobject, Json.allKeys]
      exact Json.allKeys_subset_of_mem hentry hinner

/-- The keys of the places of a table are keys of the data. -/
theorem Table.ownData_keys (table : Table) (data : Members) :
    ∀ datum ∈ table.ownData data, ∀ key ∈ datum.place.key?, key ∈ Json.memberKeys data := by
  intro datum hdatum key hkey
  rw [ownData, List.mem_append, List.mem_flatMap, List.mem_flatMap] at hdatum
  rcases hdatum with ⟨entry, hentry, hdatum⟩ | ⟨relation, -, hdatum⟩
  · have hmem : entry ∈ data := (List.mem_filter.1 hentry).1
    exact Json.allKeys_subset_of_mem hmem (ObjectSchema.data_keys _ entry datum hdatum key hkey)
  · unfold Relation.ownData at hdatum
    split at hdatum
    · split at hdatum
      · cases hdatum
      · rw [List.mem_singleton.1 hdatum] at hkey
        cases hkey
    · cases hdatum

/-! ## Statements -/

namespace Sql.Keyed

variable {P : String → Prop}

/-- Columns write names alone. -/
theorem plainColumns (names : List String) :
    Keyed P (Projection.listPieces (names.map Projection.column)) := by
  refine .columns (List.forall_mem_map.2 fun name _ => ?_)
  rw [Projection.column, Projection.plain, Expr.pieces]
  exact .plainColumn _ _

theorem rawColumn {text : String} (free : nul ∉ text.toList) :
    Keyed P (Projection.listPieces [.plain (.raw text)]) := by
  refine .columns (List.forall_mem_singleton.2 ?_)
  rw [Projection.plain, Expr.pieces]
  exact .raw free

/-- A new row has what its values and its output columns have. -/
theorem insert {table : String} {record : Record} {returning : List Projection}
    (values : ∀ entry ∈ record.entries, Keyed P entry.2.pieces)
    (returned : Keyed P (Projection.listPieces returning)) :
    Keyed P (Statement.insert ⟨some table, some record, returning⟩).pieces := by
  have hrecord : Keyed P record.pieces :=
    ((names _).append (.listPieces (List.forall_mem_map.2 values))).append (names _)
  refine ((names _).append (flatMap fun other hother => ?_)).append returned
  rwa [List.mem_singleton.1 hother]

/-- An update has what its assignments, its condition and its output columns have. -/
theorem update {update : Sql.Update}
    (assignments : ∀ assignment ∈ update.assignments, Keyed P assignment.pieces)
    (condition : Keyed P (Condition.clausePieces update.where?))
    (returned : Keyed P (Projection.listPieces update.returning)) :
    Keyed P (Statement.update update).pieces :=
  ((((names _).append (flatMap assignments)).append (names _)).append condition).append returned

end Sql.Keyed

/-! ## Inserts -/

section

variable {context : ProjectionContext} {a b : Aliases} {P : String → Prop}

/-- The literals of the subquery over created rows are keys of its trees. -/
theorem CreatedRows.keyed_expr {created : CreatedRows} {selection? included? : Option Json}
    {path : String} {value : Expr}
    (compiled : Returns (created.expr context selection? included? path) a value b)
    (keys : ∀ key ∈ Json.treeKeys selection? ++ Json.treeKeys included?, P key) :
    Keyed P value.pieces := by
  obtain ⟨related, object, condition?, order, _, _, _, -, derives, filter, ordered, rfl⟩ :=
    expr_eq_of_returns compiled
  obtain ⟨hfilter, hselect, hinclude⟩ := IncludeOptions.treeKeys_ofEntry_subset included?
  rw [List.forall_mem_append] at keys
  rw [Expr.pieces]
  refine .relatedSelect (.object (derives.keyed ?_)) ?_ ?_ ?_
  · rw [ProjectionTask.allKeys, List.forall_mem_append]
    refine ⟨fun key hkey => ?_, fun key hkey => keys.2 key (hinclude hkey)⟩
    rcases List.mem_append.1 (Json.treeKeys_orElse_subset _ _ hkey) with hown | hoption
    · exact keys.1 key hown
    · exact keys.2 key (hselect hoption)
  · unfold rows
    split
    · exact (Keyed.name _).append (.names _)
    · exact (Keyed.names _).append (.name _)
  · exact filter.keyed fun key hkey => keys.2 key (hfilter hkey)
  · rcases ordered with rfl | ordered
    · exact .nil
    · exact keyed_orderTerms ordered

/-- A tree without created relations has no new keys. -/
theorem treeKeys_withoutCreated_subset (created : List CreatedRows) (tree? : Option Json) :
    Json.treeKeys (withoutCreated created tree?) ⊆ Json.treeKeys tree? := by
  cases tree? with
  | none => exact List.nil_subset _
  | some tree =>
    rw [withoutCreated, Option.map_some, Json.treeKeys_some, Json.treeKeys_some]
    split
    · rw [Json.allKeys, Json.allKeys]
      exact Json.memberKeys_subset (List.filter_subset_self _)
    · exact List.Subset.refl _

/-- The literals of the selection after an insert are keys of the trees. -/
theorem keyed_createdSelect {table : Table} {parent : String} {created : List CreatedRows}
    {select? include? : Option Json} {select : Select}
    (compiled : Returns (createdSelect context table parent created select? include?) a select b)
    (keys : ∀ key ∈ Json.treeKeys select? ++ Json.treeKeys include?, P key) :
    Keyed P select.pieces := by
  simp only [createdSelect, returns_bind, returns_pure] at compiled
  obtain ⟨columns, _, hcolumns, relations, _, hrelations, rfl, rfl⟩ := compiled
  rw [List.forall_mem_append] at keys
  refine .ofTable ?_ _ _
  rw [Projection.listPieces_eq_flatMap, List.flatMap_append, ← Projection.listPieces_eq_flatMap,
    ← Projection.listPieces_eq_flatMap]
  refine Keyed.append ?_ (.columns (forall_of_returns_mapM hrelations ?_))
  · refine ProjectionContext.keyed_projections hcolumns (List.forall_mem_append.2 ⟨?_, ?_⟩)
    · exact fun key hkey => keys.1 key (treeKeys_withoutCreated_subset _ _ hkey)
    · exact fun key hkey => keys.2 key (treeKeys_withoutCreated_subset _ _ hkey)
  · intro rows _ s column t hcolumn
    simp only [returns_bind, returns_pure] at hcolumn
    obtain ⟨value, _, hvalue, rfl, rfl⟩ := hcolumn
    refine CreatedRows.keyed_expr hvalue (List.forall_mem_append.2 ⟨?_, ?_⟩)
    · intro key hkey
      refine keys.1 key (Json.memberKeys_membersOf_subset select? ?_)
      exact Json.treeKeys_get?_subset _ _ (treeKeys_bind_selectTree?_subset _ hkey)
    · intro key hkey
      refine keys.2 key (Json.memberKeys_membersOf_subset include? ?_)
      exact Json.treeKeys_get?_subset _ _ hkey

namespace InsertPlan

variable {plan : InsertPlan} {table : Table} {select? include? : Option Json}

/-- The literals in the chain of a plan are keys of its trees if the records have none. -/
theorem keyed_chain {chain : Chain}
    (parents : ∀ row ∈ plan.parents, ∀ entry ∈ row.record.entries, Keyed P entry.2.pieces)
    (own : ∀ entry ∈ plan.own.entries, Keyed P entry.2.pieces)
    (children : ∀ row ∈ plan.children, ∀ entry ∈ row.record.entries, Keyed P entry.2.pieces)
    (compiled : Returns (plan.chain context table select? include?) a chain b)
    (keys : ∀ key ∈ Json.treeKeys select? ++ Json.treeKeys include?, P key) :
    ∀ statement ∈ chain.statements, Keyed P statement.pieces := by
  obtain ⟨returning, selections, rfl, hreturning, hselected⟩ := chain_cases compiled
  have hlink : ∀ source column, Keyed P (Expr.reference source column).pieces := by
    intro source column
    rw [Expr.pieces]
    exact .names _
  have hall : Keyed P (Projection.listPieces allColumns) := .rawColumn (by decide)
  rw [List.append_assoc, List.forall_mem_append, List.cons_append, List.forall_mem_cons,
    List.forall_mem_append, List.forall_mem_map, List.forall_mem_map]
  refine ⟨fun row hrow => ?_, ?_, fun row hrow => ?_, ?_⟩
  · refine .insert (parents row hrow) ?_
    split
    · exact hall
    · exact .plainColumns [row.relation.sourceColumn]
  · refine .insert (fun entry hentry => ?_) ?_
    · rcases Record.mem_setAll hentry with hentry | hown
      · obtain ⟨_, -, rfl⟩ := List.mem_map.1 hentry
        exact hlink _ _
      · exact own entry hown
    · unfold Returning at hreturning
      split at hreturning
      · obtain ⟨_, _, hreturning⟩ := hreturning
        exact ProjectionContext.keyed_projections hreturning keys
      · rw [hreturning]
        exact .plainColumns _
  · refine .insert (fun entry hentry => ?_) ?_
    · rcases Record.mem_set hentry with rfl | hrecord
      · exact hlink _ _
      · exact children row hrow entry hrecord
    · split
      · exact hall
      · exact .nil
  · split at hselected
    · obtain ⟨select, _, _, hselect, rfl⟩ := hselected
      exact List.forall_mem_singleton.2 (keyed_createdSelect hselect keys)
    · rw [hselected]
      exact List.forall_mem_nil _

end InsertPlan

/-! ## Updates -/

namespace AlterationPlan

variable {plan : AlterationPlan} {table : Table} {filter? select? include? : Option Json}
  {s t : Progress}

/-- The literals in the chain of a plan are keys of its trees if those in its assignments are. -/
theorem keyed_chain {chain : Chain} (own : ∀ assignment ∈ plan.own, Keyed P assignment.pieces)
    (steps : ∀ step ∈ plan.steps, ∀ assignment ∈ step.assignments, Keyed P assignment.pieces)
    (compiled : Returns (plan.chain context table filter? select? include?) s chain t)
    (filterKeys : ∀ key ∈ Json.treeKeys filter?, P key)
    (keys : ∀ key ∈ Json.treeKeys select? ++ Json.treeKeys include?, P key) :
    ∀ statement ∈ chain.statements, Keyed P statement.pieces := by
  obtain ⟨condition?, _, returning, _, _, hcondition, hreturning, -, hchainOf⟩ :=
    chain_steps compiled
  obtain ⟨selections, rfl, hselected⟩ := chainOf_cases hchainOf
  replace hcondition := ProjectionContext.keyed_conditionOn? hcondition filterKeys
  have hreturned : Keyed P (Projection.listPieces returning) := by
    rcases returning_cases hreturning with ⟨-, rfl⟩ | ⟨-, -, hcolumns⟩ | ⟨-, -, rfl⟩
    · exact .plainColumns _
    · exact ProjectionContext.keyed_projections hcolumns keys
    · exact .nil
  rw [List.forall_mem_append, List.forall_mem_cons, List.forall_mem_map]
  refine ⟨⟨?_, fun step hstep => ?_⟩, ?_⟩
  · unfold ownStatement
    split
    · refine .select ?_ (.name _) hcondition .nil
      split
      · exact .rawColumn (by decide)
      · exact hreturned
    · exact .update own hcondition hreturned
  · refine .update (steps step hstep) ?_ .nil
    rw [Condition.clausePieces, Condition.equal, Condition.pieces, Expr.pieces, Expr.pieces]
    exact (Keyed.plainColumn _ _).append (.names _)
  · split at hselected
    · obtain ⟨columns, _, _, hcolumns, rfl⟩ := hselected
      rw [List.forall_mem_singleton]
      exact .ofTable (ProjectionContext.keyed_projections hcolumns keys) _ _
    · rw [hselected]
      exact List.forall_mem_nil _

end AlterationPlan

/-! ## Other queries -/

namespace ProjectionContext

variable {table : String}

/-- The literals of a selection are keys of the query. -/
theorem keyed_select {query : SelectQuery} {select : Select}
    (compiled : Returns (context.select table query) a select b)
    (filterKeys : ∀ key ∈ Json.treeKeys query.filter?, P key)
    (keys : ∀ key ∈ Json.treeKeys query.select? ++ Json.treeKeys query.include?, P key) :
    Keyed P select.pieces := by
  obtain ⟨info, columns, condition?, order, _, -, hcolumns, hcondition, horder, rfl⟩ :=
    select_cases compiled
  exact .select (keyed_projections hcolumns keys) (.name _)
    (keyed_conditionOn? hcondition filterKeys) (keyed_orderTerms horder)

/-- So are those of a delete. -/
theorem keyed_delete {query : DeleteQuery} {delete : Delete}
    (compiled : Returns (context.delete table query) a delete b)
    (filterKeys : ∀ key ∈ Json.treeKeys query.filter?, P key)
    (keys : ∀ key ∈ Json.treeKeys query.select? ++ Json.treeKeys query.include?, P key) :
    Keyed P delete.pieces := by
  obtain ⟨condition?, returning, _, hcondition, hreturning, rfl⟩ := delete_cases compiled
  refine ((Keyed.names _).append (keyed_conditionOn? hcondition filterKeys)).append ?_
  split at hreturning
  · exact keyed_projections hreturning keys
  · rw [hreturning]
    exact .nil

/-- So are those of a count. -/
theorem keyed_count {query : CountQuery} {select : Select}
    (compiled : Returns (context.count table query) a select b)
    (filterKeys : ∀ key ∈ Json.treeKeys query.filter?, P key) : Keyed P select.pieces := by
  obtain ⟨condition?, hcondition, rfl⟩ := count_cases compiled
  refine .select (.columns (List.forall_mem_singleton.2 ?_)) (.name _)
    (keyed_conditionOn? hcondition filterKeys) .nil
  rw [Projection.aliased, Expr.pieces]
  exact .raw (by decide)

end ProjectionContext

end

/-! ## Queries -/

/-- The keys of a query that its text may write as literals: those of its data and trees.  The keys
in the data of an insert are names of columns, or they are bound with a value. -/
def Query.literalKeys : Query → List String
  | .insert query => Json.treeKeys query.select? ++ Json.treeKeys query.include?
  | .update query =>
    query.data.allKeys ++ Json.treeKeys query.filter? ++
      (Json.treeKeys query.select? ++ Json.treeKeys query.include?)
  | .select query | .findOne query =>
    Json.treeKeys query.filter? ++ (Json.treeKeys query.select? ++ Json.treeKeys query.include?)
  | .delete query =>
    Json.treeKeys query.filter? ++ (Json.treeKeys query.select? ++ Json.treeKeys query.include?)
  | .count query => Json.treeKeys query.filter?

namespace WriteContext

variable {context : WriteContext} {table : String} {chain : Chain} {s t : Progress}
  {P : String → Prop}

/-- The assignments of an entry are flat. -/
theorem fieldAssignments_isFlat {schema : ObjectSchema} {path : String}
    {qualifier? : Option String} {entry : String × Json} {assignments : List Assignment}
    (h : Returns (context.fieldAssignments schema path qualifier? entry) s assignments t) :
    ∀ assignment ∈ assignments, assignment.IsFlat := by
  obtain ⟨field, -, ⟨members, expr, -, -, hexpr, rfl⟩ | ⟨nested, members, -, -, hpatch⟩ |
    ⟨expr, -, -, -, hexpr, rfl⟩⟩ := fieldAssignments_cases h
  · simp only [operationExpr, bind_eq_ok_iff, pure_eq_ok_iff] at hexpr
    obtain ⟨⟨operator, operand⟩, -, rfl⟩ := hexpr
    refine List.forall_mem_singleton.2 (Assignment.isFlat_column fun target entries hmerge => ?_)
    cases hmerge
  · obtain ⟨entries, _, -, -, rfl, rfl⟩ := patchAssignments_cases hpatch
    split
    · exact List.forall_mem_nil _
    · exact Assignment.isFlat_patch
  · exact List.forall_mem_singleton.2
      (Assignment.isFlat_column_of_isLiteral (fieldExpr_isLiteral hexpr))

/-- Assignments that write data have the keys of its places. -/
theorem keyed_of_write {assignments : List Assignment} {qualifier? : Option String}
    {data : List Datum} (h : Assignment.Write assignments qualifier? data)
    (flat : ∀ assignment ∈ assignments, assignment.IsFlat)
    (keys : ∀ datum ∈ data, ∀ key ∈ datum.place.key?, P key) :
    ∀ assignment ∈ assignments, Keyed P assignment.pieces := by
  intro assignment hassignment
  refine Assignment.keyed (flat assignment hassignment) fun write hwrite => ?_
  obtain ⟨datum, hdatum, hplace, hstored⟩ := h.written assignment hassignment write hwrite
  rw [hplace]
  exact ⟨keys datum hdatum, hstored.keyed (keys datum hdatum)⟩

/-- The literals in the chain of a query are fixed texts, keys of the query, or names of columns
that stand next to them. -/
theorem keyed_chain {query : Query} (compiled : Returns (context.chain table query) s chain t) :
    Keyed (· ∈ query.literalKeys) chain.pieces := by
  refine .chain ?_
  cases query with
  | insert query =>
    obtain ⟨info, members, plan, _, _, _, -, -, hplan, hchain⟩ := plan_of_insert compiled
    obtain ⟨_, -, hparents, hown, hchildren⟩ := insertPlan_passes hplan
    exact InsertPlan.keyed_chain (fun row hrow => keyed_of_isPassed (hparents row hrow).2)
      (keyed_of_isPassed hown) (fun row hrow => keyed_of_isPassed (hchildren row hrow).2) hchain
      fun key hkey => hkey
  | update query =>
    obtain ⟨info, members, plan, _, -, hdata, hplan, hchain⟩ := plan_of_update compiled
    obtain ⟨hown, hsteps, -⟩ := alterationPlan_writes hplan
    obtain ⟨hownFlat, hstepsFlat⟩ := forall_assignments_of_alterationPlan
      (P := Assignment.IsFlat) fieldAssignments_isFlat
      (fun hexpr => Assignment.isFlat_column_of_isLiteral (fieldExpr_isLiteral hexpr)) hplan
    have hkeys : ∀ key ∈ Json.memberKeys members, key ∈ (Query.update query).literalKeys := by
      intro key hkey
      rw [Query.literalKeys, hdata, Json.allKeys]
      exact List.mem_append_left _ (List.mem_append_left _ hkey)
    refine AlterationPlan.keyed_chain (keyed_of_write hown hownFlat ?_) (fun step hstep => ?_)
      hchain (fun key hkey => ?_) fun key hkey => List.mem_append_right _ hkey
    · exact fun datum hdatum key hkey => hkeys key (info.ownData_keys members datum hdatum key hkey)
    · obtain ⟨relation, -, hwrites⟩ := exists_mem_of_forall₂ hsteps hstep
      refine keyed_of_write hwrites.write (hstepsFlat step hstep) fun datum hdatum key hkey => ?_
      exact hkeys key (relation.relatedData_keys members datum hdatum key hkey)
    · exact List.mem_append_left _ (List.mem_append_right _ hkey)
  | select query | findOne query =>
    obtain ⟨select, _, _, hselect, rfl⟩ := single_cases compiled
    refine List.forall_mem_singleton.2 (ProjectionContext.keyed_select hselect ?_ ?_)
    · exact fun key hkey => List.mem_append_left _ hkey
    · exact fun key hkey => List.mem_append_right _ hkey
  | delete query =>
    obtain ⟨delete, _, _, hdelete, rfl⟩ := single_cases compiled
    refine List.forall_mem_singleton.2 (ProjectionContext.keyed_delete hdelete ?_ ?_)
    · exact fun key hkey => List.mem_append_left _ hkey
    · exact fun key hkey => List.mem_append_right _ hkey
  | count query =>
    obtain ⟨select, _, _, hselect, rfl⟩ := single_cases compiled
    exact List.forall_mem_singleton.2 (ProjectionContext.keyed_count hselect fun key hkey => hkey)

/-- The text of a compiled query holds the character zero exactly where it writes a key of the query
that holds it.  So no text holds it if no key of the query does, whatever the names of tables and
columns and the values are: values are bound, and with such a name the query is refused. -/
theorem nul_mem_sql {query : Query} {compiled : CompiledQuery} {next : Progress}
    (h : context.run table query = (.ok compiled, next)) :
    (∃ chain r, Returns (context.chain table query) Progress.start chain r ∧
      (∀ name, .name name ∈ chain.pieces → nul ∉ name.toList) ∧
      (nul ∈ compiled.sql.toList ↔
        ∃ key ∈ query.literalKeys, .literal key ∈ chain.pieces ∧ nul ∈ key.toList)) ∧
    ((∀ key ∈ query.literalKeys, nul ∉ key.toList) → nul ∉ compiled.sql.toList) := by
  obtain ⟨chain, tokens, r, hchain, htokens, rfl⟩ := compile_cases h
  have hspells := Chain.spells_of_tokens htokens
  have hkeyed := keyed_chain hchain
  have hnames : ∀ name, .name name ∈ chain.pieces → nul ∉ name.toList := fun name =>
    hspells.nul_notMem_name
  have hiff : nul ∈ (CompiledQuery.ofTokens context.config.placeholderStyle tokens).sql.toList ↔
      ∃ key ∈ query.literalKeys, .literal key ∈ chain.pieces ∧ nul ∈ key.toList := by
    rw [Sql.toList_sql_ofTokens, hspells.nul_mem_text_iff hkeyed.fixed]
    constructor
    · rintro ⟨key, hkey, hnul⟩
      -- Neither a fixed literal nor a name holds the character.
      rcases hkeyed.literal key hkey with hown | hfixed | hname
      · exact ⟨key, hown, hkey, hnul⟩
      · have hfree : ∀ text ∈ Sql.fixedLiterals, nul ∉ text.toList := by decide
        exact absurd hnul (hfree key hfixed)
      · exact absurd hnul (hnames key hname)
    · rintro ⟨key, -, hkey, hnul⟩
      exact ⟨key, hkey, hnul⟩
  refine ⟨⟨chain, r, hchain, hnames, hiff⟩, fun hfree hmem => ?_⟩
  obtain ⟨key, hkey, -, hnul⟩ := hiff.1 hmem
  exact hfree key hkey hnul

end WriteContext

/-! ## Notes in a library -/

namespace Library

/-- Books with notes, which are objects with any keys. -/
def notedBook : Table :=
  ⟨"book",
    ⟨[("id", integer), ("notes", { Field.ofKind (.object .empty) with extensible := true })]⟩,
    some "id", []⟩

/-- Books with notes alone. -/
def noted : Repository := ⟨[notedBook]⟩

theorem noted_accepted : noted.Accepted :=
  ⟨[⟨"book", notedBook.schema, [⟨"book_id", ["id"], .primary⟩], []⟩], rfl⟩

/-- The number of books whose notes are true under a key. -/
def countNoted (key : String) : Query :=
  .count ⟨some (.object [("notes", .object [(key, .bool true)])])⟩

end Library

namespace WriteContext

/-- The text for a key without the character zero does not hold it, whatever else the key holds. -/
theorem nul_mem_sql_noted :
    ∃ compiled next, (Library.checkedWrites Library.noted).run "book" (Library.countNoted "a'\"") =
        (.ok compiled, next) ∧
      nul ∉ compiled.sql.toList := by
  have hrun : ∃ compiled next, (Library.checkedWrites Library.noted).run "book"
      (Library.countNoted "a'\"") = (.ok compiled, next) := ⟨_, _, rfl⟩
  obtain ⟨compiled, next, hcompiled⟩ := hrun
  refine ⟨compiled, next, hcompiled, (nul_mem_sql hcompiled).2 ?_⟩
  decide

/-- A key of a filter brings the character zero into the text of a compiled query. -/
theorem exists_nul_mem_sql :
    Library.noted.Accepted ∧
      ∃ compiled next, (Library.checkedWrites Library.noted).run "book"
          (Library.countNoted "a\x00b") = (.ok compiled, next) ∧
        nul ∈ compiled.sql.toList := by
  refine ⟨Library.noted_accepted, _, _, rfl, ?_⟩
  decide +kernel

end WriteContext

end RelationalQuery
