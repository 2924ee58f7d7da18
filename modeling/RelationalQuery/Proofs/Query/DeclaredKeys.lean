import RelationalQuery.Proofs.DeclaredKeys
import RelationalQuery.Proofs.Projection.DeclaredKeys
import RelationalQuery.Proofs.Query.CreatedSelection
import RelationalQuery.Proofs.Query.Renderable
import RelationalQuery.Proofs.Query.Rows

/-!
# Queries with other keys are refused

With the validator of schemas, the data of an insert that is compiled has keys that name relations
or are declared, in related rows as well, the filters of a compiled query have the keys that filters
may have, and its orders are by columns.  A query with any other key in one of these places fails,
and there is no statement.

One order is passed over.  If an insert creates the row of a singular relation, then the order that
its trees ask for with this relation is not compiled, and whatever it holds is accepted.

Main definitions:

- `Table.AdmitsData` says that the keys in the data of an insert may stand there.
- `Query.Admitted` says this of all keys in the data, the filters and the orders of a query.
- `Query.CreatesRow` are the relations whose order is passed over.

Main results:

- `WriteContext.admits_of_insertPlan`: the data of a plan that is compiled has no other keys.
- `admits_of_createdSelect`: neither do the filters and orders of created relations.
- `WriteContext.fails_closed`: queries with other keys are refused.
- `WriteContext.order_passed_over`: a query with a misspelt order that is compiled.
-/

namespace RelationalQuery

open Sql (Chain Condition)

/-! ## The data of inserts -/

/-- The keys of a related row are declared by the schema of its table; or the row is given by the
key alone that the new row holds, and this is declared by the schema of the new row. -/
def Table.AdmitsRow (table : Table) (relation : Relation) (row : Members) : Prop :=
  relation.relatedSchema.Declares row ∨
    relation.shape.isInverse = false ∧ row.keys = [relation.targetColumn] ∧
      table.schema.Declares row

/-- The keys in the data of an insert are relations above related rows, or they are declared. -/
structure Table.AdmitsData (table : Table) (data : Members) : Prop where
  related : ∀ member ∈ data, ∀ relation, table.relation? member.1 = some relation →
    relation.IsDescribed member.2 ∧ ∀ row ∈ relation.rows member.2, table.AdmitsRow relation row
  own : ∀ member ∈ data, table.relation? member.1 = none →
    table.schema.DeclaresMember false member

/-- The entry of a relation whose key the new row holds has declared keys, or adds the one key that
it has to what is known of the new row. -/
def ForeignKeys.Takes (keys : ForeignKeys) (entry : Relation × Json) : Prop :=
  entry.1.IsDescribed entry.2 ∧ ∀ row ∈ entry.1.rows entry.2,
    entry.1.relatedSchema.Declares row ∨ row.keys = [entry.1.targetColumn] ∧ row ⊆ keys.own

/-- What is known of the new row only grows. -/
theorem ForeignKeys.Takes.mono {keys next : ForeignKeys} {entry : Relation × Json}
    (h : keys.Takes entry) (kept : keys.own ⊆ next.own) : next.Takes entry :=
  ⟨h.1, fun row hrow =>
    (h.2 row hrow).imp_right (And.imp_right fun added => List.Subset.trans added kept)⟩

namespace WriteContext

variable {context : WriteContext} {table : Table} {s t : Progress}

section

variable (checked : context.validator = Validator.ofSchema)

include checked

/-- The keys of a record that was checked in full are declared. -/
theorem declares_of_check {record : Members} {schema : ObjectSchema} {path : String} {u : Unit}
    (h : Returns (context.validate record schema path .full) s u t) : schema.Declares record := by
  have hvalid := (returns_validate_iff.1 h).1
  rw [checked] at hvalid
  exact ObjectSchema.declares_of_validate hvalid

/-- An entry whose key the new row holds is taken. -/
theorem addForeign_takes {keys next : ForeignKeys} {entry : Relation × Json}
    (owned : entry.1.shape.isInverse = false)
    (h : Returns (context.addForeign table.name keys entry) s next t) :
    keys.own ⊆ next.own ∧ next.Takes entry := by
  obtain ⟨relation, value⟩ := entry
  have hshape : relation.shape = .foreignOwned := RelationShape.eq_foreignOwned owned
  obtain ⟨payload?, hpayload, hcases⟩ := addForeign_cases h
  obtain ⟨hrow, rfl⟩ := relationPayload_eq_ok hpayload
  have hdescribed : relation.IsDescribed value := by simpa [Relation.IsDescribed, hshape] using hrow
  have hrows : relation.rows value = value.row?.toList := by simp [Relation.rows, hshape]
  unfold ForeignKeys.Takes
  rw [hrows]
  rcases hcases with ⟨hmembers, rfl, -⟩ | ⟨payload, hmembers, hset, hcases⟩
  · rw [hmembers]
    exact ⟨List.Subset.refl _, hdescribed, List.forall_mem_nil _⟩
  · rw [hmembers, Option.toList_some, List.forall_mem_singleton]
    rcases hcases with ⟨key, hkey, hlength, rfl, -⟩ | ⟨-, record, hvalid, -, rfl⟩
    · have hfresh : relation.targetColumn ∉ Entries.names keys.own := by
        intro hmem
        have hcontains := Members.contains_iff.2 hmem
        rw [ForeignKeys.isSet, hcontains] at hset
        cases hset
      have hown : Members.insert keys.own relation.targetColumn key =
          keys.own ++ [(relation.targetColumn, key)] := Entries.put_of_not_mem hfresh
      simp only
      rw [hown, Members.eq_singleton_of_get? hkey hlength]
      exact ⟨List.subset_append_left _ _, hdescribed, .inr ⟨rfl, List.subset_append_right _ _⟩⟩
    · exact ⟨List.Subset.refl _, hdescribed, .inl (declares_of_check checked hvalid)⟩

/-- So are all such entries. -/
theorem foldlM_addForeign_takes {keys next : ForeignKeys} {entries : List (Relation × Json)}
    (owned : ∀ entry ∈ entries, entry.1.shape.isInverse = false)
    (h : Returns (entries.foldlM (context.addForeign table.name) keys) s next t) :
    keys.own ⊆ next.own ∧ ∀ entry ∈ entries, next.Takes entry := by
  refine returns_foldlM_compose (R := fun entries first last =>
    first.1.own ⊆ last.1.own ∧ ∀ entry ∈ entries, last.1.Takes entry) h ?_ ?_ ?_
  · exact fun _ => ⟨List.Subset.refl _, List.forall_mem_nil _⟩
  · rintro entry rest _ _ _ ⟨hfirst, hentry⟩ ⟨hlater, hothers⟩
    refine ⟨List.Subset.trans hfirst hlater, List.forall_mem_cons.2 ⟨?_, hothers⟩⟩
    exact (List.forall_mem_singleton.1 hentry).mono hlater
  · intro entry hentry _ _ _ _ hstep
    rw [List.forall_mem_singleton]
    exact addForeign_takes checked (owned entry hentry) hstep

/-- The rows of a relation that refer to the new row have declared keys. -/
theorem childRows_declares {entry : Relation × Json} {rows : List NewRow}
    (h : Returns (context.childRows table.name entry) s rows t) :
    entry.1.IsDescribed entry.2 ∧
      ∀ row ∈ entry.1.rows entry.2, entry.1.relatedSchema.Declares row := by
  simp only [childRows, returns_bind, returns_monadLift] at h
  obtain ⟨payloads, _, ⟨hpayloads, rfl⟩, h⟩ := h
  obtain ⟨hdescribed, hrows⟩ := childPayloads_eq_ok hpayloads
  refine ⟨hdescribed, ?_⟩
  rw [hrows, List.forall_mem_map]
  intro payload hpayload
  obtain ⟨_, _, _, hrow⟩ := returns_of_mem_mapM h hpayload
  obtain ⟨-, hvalid, -⟩ := childRow_cases hrow
  exact ObjectSchema.declares_of_withOptional (declares_of_check checked hvalid)

/-- The keys in the data of an insert whose plan is compiled may stand there. -/
theorem admits_of_insertPlan {data : Members} {plan : InsertPlan}
    (h : Returns (context.insertPlan table data) s plan t) : table.AdmitsData data := by
  simp only [insertPlan, returns_bind, returns_pure, returns_monadLift] at h
  obtain ⟨keys, _, hkeys, _, _, hvalid, own, _, -, children, _, hchildren, -⟩ := h
  obtain ⟨hkept, htaken⟩ := foldlM_addForeign_takes checked
    (fun entry hentry => by simpa using (List.mem_filter.1 hentry).2) hkeys
  have hown : table.schema.Declares keys.own :=
    ObjectSchema.declares_of_withOptional (declares_of_check checked hvalid)
  constructor
  · intro member hmember relation hrelation
    have hentry : (relation, member.2) ∈ relationEntries table data :=
      List.mem_filterMap.2 ⟨member, hmember, by rw [hrelation, Option.map_some]⟩
    cases hinverse : relation.shape.isInverse with
    | false =>
      obtain ⟨hdescribed, hrows⟩ :=
        htaken _ (List.mem_filter.2 ⟨hentry, by rw [hinverse]; rfl⟩)
      refine ⟨hdescribed, fun row hrow => (hrows row hrow).imp_right ?_⟩
      rintro ⟨hnames, hadded⟩
      exact ⟨hinverse, hnames, fun entry hentry => hown entry (hadded hentry)⟩
    | true =>
      obtain ⟨_, _, _, hstep⟩ :=
        returns_of_mem_mapM hchildren (List.mem_filter.2 ⟨hentry, hinverse⟩)
      obtain ⟨hdescribed, hrows⟩ := childRows_declares checked hstep
      exact ⟨hdescribed, fun row hrow => .inl (hrows row hrow)⟩
  · intro member hmember hcolumn
    refine hown member (hkept (List.mem_filter.2 ⟨hmember, ?_⟩))
    rw [hcolumn]
    rfl

end

end WriteContext

/-! ## Rows of relations -/

section

variable {context : ProjectionContext} {table : Table} {select? include? : Option Json}

/-- What trees ask for of a created relation is accepted, but for the order of a single row. -/
theorem acceptsRows_of_created {name path : String} {request : Option Json × Option Json}
    (requested : request? select? include? name = some request) {isOrdered : Bool}
    (accepts : context.AcceptsRows relation isOrdered
      (((Json.membersOf select?).get? name).bind selectTree?)
      ((Json.membersOf include?).get? name) path) :
    context.AcceptsRows relation isOrdered request.1 request.2 path := by
  -- A false entry of the include tree is refused, so that it is read as what is asked for.
  have hentry : (Json.membersOf include?).get? name ≠ some (.bool false) := by
    intro hfalse
    obtain ⟨-, -, hcheck, -⟩ := accepts
    rw [hfalse] at hcheck
    exact not_succeeds_error hcheck
  have hincluded := includedAs?_eq_get? hentry
  rcases request?_cases.1 requested with ⟨value, hvalue, -, rfl⟩ | ⟨hnone, entry, hentry, rfl⟩
  · rw [hincluded]
    rwa [hvalue, Option.bind_some] at accepts
  · rw [hincluded] at hentry
    rwa [hnone, hentry] at accepts

/-- What trees ask for of a relation may be asked for: the keys among its options may stand there, but
for those of an order that plays no part, and so may those among the options of all relations
inside. -/
structure Repository.AdmitsRequest (repository : Repository) (relation : Relation)
    (isOrdered : Bool) (request : Option Json × Option Json) : Prop where
  options : repository.AdmitsOptions relation isOrdered request.2
  inside : ∀ related, repository.table? relation.relatedTable = some related → ∀ inner options?,
    repository.ReachesRows inner options? related (request.1 <|> entryOption? request.2 "select")
        (entryOption? request.2 "include") →
      repository.AdmitsOptions inner true options?

/-- What is accepted of a relation may be asked for. -/
theorem ProjectionContext.AcceptsRows.admitsRequest {relation : Relation} {isOrdered : Bool}
    {request : Option Json × Option Json} {path : String}
    (h : context.AcceptsRows relation isOrdered request.1 request.2 path) :
    context.repository.AdmitsRequest relation isOrdered request := by
  refine ⟨h.admitsOptions, fun related known inner options? reached => ?_⟩
  obtain ⟨found, hfound, -, htrees, -⟩ := h
  obtain rfl := Option.some.inj (hfound.symm.trans known)
  rw [IncludeOptions.ofEntry_eq] at htrees
  exact ProjectionContext.admits_of_reachesRows reached htrees

/-- What the selection after an insert asks for may be asked for, but for the order of a single
created row, which is not compiled. -/
theorem admits_of_createdSelect {created : List CreatedRows} {parent : String}
    {select : Sql.Select} {a b : Aliases}
    (known : context.repository.table? table.name = some table)
    (relations : ∀ rows ∈ created, table.relation? rows.relation.name = some rows.relation)
    (h : Returns (createdSelect context table parent created select? include?) a select b)
    {relation : Relation} (named : table.relation? relation.name = some relation)
    {request : Option Json × Option Json}
    (requested : request? select? include? relation.name = some request) :
    context.repository.AdmitsRequest relation true request ∨
      (∃ rows ∈ created, rows.relation = relation) ∧ relation.shape.isSingular = true ∧
        context.repository.AdmitsRequest relation false request := by
  obtain ⟨htrees, hcreated⟩ := (succeedsIff_createdSelect known).1 _ _ _ h
  cases hmem : CreatedRows.isCreated created relation.name with
  | true =>
    obtain ⟨rows, hrows, hsame⟩ := CreatedRows.isCreated_iff.1 hmem
    have hrelation := relations rows hrows
    rw [hsame, named, Option.some.injEq] at hrelation
    subst hrelation
    have hselected : isSelected select? include? rows.relation.name = true := by
      rw [isSelected_iff, requested]
      exact .inl rfl
    have hrequest := acceptsRows_of_created requested (hcreated rows hrows hselected)
    cases hsingular : rows.relation.shape.isSingular with
    | true =>
      rw [hsingular] at hrequest
      exact .inr ⟨⟨rows, hrows, rfl⟩, rfl, hrequest.admitsRequest⟩
    | false =>
      rw [hsingular] at hrequest
      exact .inl hrequest.admitsRequest
  | false =>
    have hkept : request? (withoutCreated created select?) (withoutCreated created include?)
        relation.name = some request := by
      rw [request?_withoutCreated, hmem]
      exact requested
    exact .inl (ProjectionContext.acceptsRows_of_request htrees named hkept).admitsRequest

end

/-! ## Queries -/

namespace Query

/-- The filter of the rows of a query. -/
def filter? : Query → Option Json
  | .insert _ => none
  | .update query => query.filter?
  | .select query | .findOne query => query.filter?
  | .delete query => query.filter?
  | .count query => query.filter?

/-- The order of the rows of a query. -/
def order? : Query → Option Json
  | .select query | .findOne query => query.order?
  | .insert _ | .update _ | .delete _ | .count _ => none

/-- The select tree of a query. -/
def select? : Query → Option Json
  | .insert query => query.select?
  | .update query => query.select?
  | .select query | .findOne query => query.select?
  | .delete query => query.select?
  | .count _ => none

/-- The include tree of a query. -/
def include? : Query → Option Json
  | .insert query => query.include?
  | .update query => query.include?
  | .select query | .findOne query => query.include?
  | .delete query => query.include?
  | .count _ => none

/-- The query inserts data that creates the only row of a relation. -/
def CreatesRow (query : Query) (context : WriteContext) (table : Table) (relation : Relation) :
    Prop :=
  relation.shape.isSingular = true ∧
    ∃ insert, query = .insert insert ∧ context.Creates table insert.data relation

/-- All keys in the data of an insert, in the filters and in the orders of a query on a table may
stand there, but for the orders that are asked for with relations that are passed over. -/
structure Admitted (query : Query) (repository : Repository) (table : Table)
    (isPassedOver : Relation → Prop) : Prop where
  data : ∀ insert, query = .insert insert →
    ∃ members, insert.data = .object members ∧ table.AdmitsData members
  filter : ∀ filter ∈ query.filter?, repository.AdmitsFilter table filter
  order : ∀ order ∈ query.order?, table.AdmitsOrder order
  related : ∀ relation, table.relation? relation.name = some relation →
    ∀ request, request? query.select? query.include? relation.name = some request →
      repository.AdmitsRequest relation true request ∨
        isPassedOver relation ∧ repository.AdmitsRequest relation false request

end Query

namespace ProjectionContext

variable {context : ProjectionContext} {table : String} {info : Table} {a b : Aliases}

/-- A compiled filter has keys that filters may have. -/
theorem admits_of_conditionOn? {filter? : Option Json} {scope? : Option String}
    {condition? : Option Condition} (known : context.repository.table? table = some info)
    (h : Returns (context.conditionOn? filter? table scope?) a condition? b) :
    ∀ filter ∈ filter?, context.repository.AdmitsFilter info filter := by
  rintro filter rfl
  simp only [conditionOn?, FilterContext.conditionOn, returns_inFilters, returns_bind,
    returns_monadLift] at h
  obtain ⟨_, ⟨found, _, ⟨hfound, -⟩, hcondition⟩, -⟩ := h
  obtain rfl := Option.some.inj ((Repository.table_eq_ok_iff.1 hfound).symm.trans known)
  exact FilterContext.admits_of_condition hcondition

/-- What compiled trees ask for of a relation may be asked for. -/
theorem admits_of_projections {select? include? : Option Json} {scope : String}
    {columns : List Sql.Projection} (known : context.repository.table? table = some info)
    (h : Returns (context.projections select? include? table scope) a columns b)
    {relation : Relation} (named : info.relation? relation.name = some relation)
    {request : Option Json × Option Json}
    (requested : request? select? include? relation.name = some request) :
    context.repository.AdmitsRequest relation true request := by
  obtain ⟨found, hfound, haccepts⟩ := succeedsIff_projections.1 _ _ _ h
  obtain rfl := Option.some.inj (hfound.symm.trans known)
  exact (acceptsRows_of_request haccepts named requested).admitsRequest

end ProjectionContext

namespace WriteContext

variable {context : WriteContext} {table : String} {info : Table} {query : Query} {chain : Chain}
  {s t : Progress}

/-- A compiled insert passes over nothing but the orders of single created rows. -/
theorem admitted_of_insert (checked : context.validator = Validator.ofSchema) {query : InsertQuery}
    (known : context.repository.table? table = some info)
    (h : Returns (context.insert table query.data query.select? query.include?) s chain t) :
    (Query.insert query).Admitted context.repository info
      ((Query.insert query).CreatesRow context info) := by
  obtain ⟨found, members, plan, _, _, _, hfound, hdata, hplan, hchain⟩ := plan_of_insert h
  obtain rfl : found = info := Option.some.inj (hfound.symm.trans known)
  have hself : context.projection.repository.table? found.name = some found :=
    Repository.table?_self known
  constructor
  · rintro insert ⟨⟩
    exact ⟨members, hdata, admits_of_insertPlan checked hplan⟩
  · nofun
  · nofun
  · intro relation hnamed request hrequest
    have hprojected := isProjected_of_request? hrequest
    obtain ⟨returning, _, -, hreturning, hselected⟩ := InsertPlan.chain_cases hchain
    change (query.select?.isSome || query.include?.isSome) = true at hprojected
    rw [InsertPlan.Returning, hprojected] at hreturning
    rw [hprojected] at hselected
    cases hsingle : plan.isSingle with
    | true =>
      rw [hsingle] at hreturning
      obtain ⟨_, _, hcolumns⟩ := hreturning
      exact .inl (ProjectionContext.admits_of_projections hself hcolumns hnamed hrequest)
    | false =>
      rw [hsingle] at hselected
      obtain ⟨_, _, _, hselect, -⟩ := hselected
      refine (admits_of_createdSelect hself (fun _ =>
        InsertPlan.relation?_of_mem_created (insertPlan_fits hplan)) hselect hnamed
          hrequest).imp_right ?_
      rintro ⟨⟨rows, hrows, rfl⟩, hsingular, hadmitted⟩
      have hcreated := InsertPlan.exists_row_of_mem_created rows hrows
      exact ⟨⟨hsingular, query, rfl, members, plan, _, _, hdata, hplan, hcreated⟩, hadmitted⟩

/-- A compiled update passes over nothing. -/
theorem admitted_of_update {query : UpdateQuery}
    (known : context.repository.table? table = some info)
    (h : Returns (context.update table query.data query.filter? query.select? query.include?) s
      chain t) {isPassedOver : Relation → Prop} :
    (Query.update query).Admitted context.repository info isPassedOver := by
  obtain ⟨found, members, plan, _, hfound, -, -, hchain⟩ := plan_of_update h
  obtain rfl : found = info := Option.some.inj (hfound.symm.trans known)
  have hself : context.projection.repository.table? found.name = some found :=
    Repository.table?_self known
  obtain ⟨condition?, _, returning, _, _, hcondition, hreturning, -, hselection⟩ :=
    AlterationPlan.chain_steps hchain
  constructor
  · nofun
  · exact ProjectionContext.admits_of_conditionOn? hself hcondition
  · nofun
  · intro relation hnamed request hrequest
    have hprojected := isProjected_of_request? hrequest
    change (query.select?.isSome || query.include?.isSome) = true at hprojected
    obtain ⟨_, -, hselected⟩ := AlterationPlan.chainOf_cases hselection
    rw [AlterationPlan.returning, hprojected] at hreturning
    rw [hprojected] at hselected
    cases hsteps : plan.steps.isEmpty with
    | true =>
      rw [hsteps] at hreturning
      exact .inl (ProjectionContext.admits_of_projections hself hreturning hnamed hrequest)
    | false =>
      rw [hsteps] at hselected
      obtain ⟨columns, _, _, hcolumns, -⟩ := hselected
      exact .inl (ProjectionContext.admits_of_projections hself hcolumns hnamed hrequest)

/-- Neither does a compiled delete. -/
theorem admitted_of_delete {query : DeleteQuery} {delete : Sql.Delete} {a b : Aliases}
    (known : context.repository.table? table = some info)
    (h : Returns (context.projection.delete table query) a delete b)
    {isPassedOver : Relation → Prop} :
    (Query.delete query).Admitted context.repository info isPassedOver := by
  obtain ⟨condition?, returning, _, hcondition, hreturning, -⟩ := ProjectionContext.delete_cases h
  constructor
  · nofun
  · exact ProjectionContext.admits_of_conditionOn? known hcondition
  · nofun
  · intro relation hnamed request hrequest
    have hprojected := isProjected_of_request? hrequest
    change (query.select?.isSome || query.include?.isSome) = true at hprojected
    rw [if_pos hprojected] at hreturning
    exact .inl (ProjectionContext.admits_of_projections known hreturning hnamed hrequest)

/-- Compiled statements come from a query whose keys may stand where they do. -/
theorem admitted_of_chain (checked : context.validator = Validator.ofSchema)
    (known : context.repository.table? table = some info)
    (h : Returns (context.chain table query) s chain t) :
    query.Admitted context.repository info (query.CreatesRow context info) := by
  cases query with
  | insert query => exact admitted_of_insert checked known h
  | update query => exact admitted_of_update known h
  | select query | findOne query =>
    obtain ⟨_, _, _, hselect, -⟩ := single_cases h
    obtain ⟨found, _, _, _, _, hfound, hcolumns, hcondition, horder, -⟩ :=
      ProjectionContext.select_cases hselect
    obtain rfl : found = info := Option.some.inj (hfound.symm.trans known)
    refine ⟨by rintro _ ⟨⟩, ProjectionContext.admits_of_conditionOn? known hcondition,
      Table.admits_of_orderTerms? horder, fun relation hnamed request hrequest => .inl ?_⟩
    exact ProjectionContext.admits_of_projections known hcolumns hnamed hrequest
  | delete query =>
    obtain ⟨_, _, _, hdelete, -⟩ := single_cases h
    exact admitted_of_delete known hdelete
  | count query =>
    obtain ⟨_, _, _, hcount, -⟩ := single_cases h
    obtain ⟨condition?, hcondition, -⟩ := ProjectionContext.count_cases hcount
    refine ⟨by rintro _ ⟨⟩, ProjectionContext.admits_of_conditionOn? known hcondition,
      by rintro _ ⟨⟩, ?_⟩
    intro relation hnamed request hrequest
    cases isProjected_of_request? hrequest

/-- A query that looks up its table is compiled only if the table is known. -/
theorem known_of_chain (h : Returns (context.chain table query) s chain t)
    (looksUp : query.looksUpTable = true) :
    ∃ info, context.repository.table? table = some info := by
  cases query with
  | insert query =>
    obtain ⟨info, _, _, _, _, _, hknown, -⟩ := plan_of_insert h
    exact ⟨info, hknown⟩
  | update query =>
    obtain ⟨info, _, _, _, hknown, -⟩ := plan_of_update h
    exact ⟨info, hknown⟩
  | select query | findOne query =>
    obtain ⟨_, _, _, hselect, -⟩ := single_cases h
    obtain ⟨info, _, _, _, _, hknown, -⟩ := ProjectionContext.select_cases hselect
    exact ⟨info, hknown⟩
  | delete query =>
    obtain ⟨_, _, _, hdelete, -⟩ := single_cases h
    obtain ⟨_, _, _, hcondition, hreturning, -⟩ := ProjectionContext.delete_cases hdelete
    rw [Query.looksUpTable, Bool.or_assoc, Bool.or_eq_true] at looksUp
    rcases looksUp with hfilter | hprojected
    · exact ProjectionContext.known_of_conditionOn? hcondition hfilter
    · rw [if_pos hprojected] at hreturning
      obtain ⟨info, hknown, -⟩ :=
        ProjectionContext.succeedsIff_projections.1 _ _ _ hreturning
      exact ⟨info, hknown⟩
  | count query =>
    obtain ⟨_, _, _, hcount, -⟩ := single_cases h
    obtain ⟨_, hcondition, -⟩ := ProjectionContext.count_cases hcount
    exact ProjectionContext.known_of_conditionOn? hcondition looksUp

/-- Queries fail closed, but for the orders of created rows.  With the validator of schemas, a query
that is compiled has a table that is known if it has any keys at all, and all keys in the data of an
insert, in its filters and in its orders may stand where they do, where only the orders that its
trees ask for with the only row that it creates for a relation are passed over.  If some other key
may not stand where it does, then there is an error and no statement. -/
theorem fails_closed (checked : context.validator = Validator.ofSchema) (table : String)
    (query : Query) :
    (∀ compiled next, context.run table query = (.ok compiled, next) →
      (query.looksUpTable = true → (context.repository.table? table).isSome = true) ∧
      ∀ info, context.repository.table? table = some info →
        query.Admitted context.repository info (query.CreatesRow context info)) ∧
    ∀ info, context.repository.table? table = some info →
      ¬ query.Admitted context.repository info (query.CreatesRow context info) →
        ∃ error next, context.run table query = (.error error, next) := by
  have hadmitted : ∀ compiled next, context.run table query = (.ok compiled, next) →
      (query.looksUpTable = true → (context.repository.table? table).isSome = true) ∧
      ∀ info, context.repository.table? table = some info →
        query.Admitted context.repository info (query.CreatesRow context info) := by
    intro compiled next hrun
    have hcompiled : Returns (context.compile table query) Progress.start compiled next := hrun
    obtain ⟨chain, _, _, hchain, -⟩ := compile_cases hcompiled
    refine ⟨fun hlooksUp => ?_, fun info hknown => admitted_of_chain checked hknown hchain⟩
    obtain ⟨info, hknown⟩ := known_of_chain hchain hlooksUp
    rw [hknown]
    rfl
  refine ⟨hadmitted, fun info hknown hother => ?_⟩
  cases hrun : context.run table query with
  | mk result next =>
    cases result with
    | error error => exact ⟨error, next, rfl⟩
    | ok compiled => exact absurd ((hadmitted compiled next hrun).2 info hknown) hother

end WriteContext

/-! ## Books of writers -/

namespace Library

/-- The removal of the books after a year whose writer has a name. -/
def laterBooks : Query :=
  .delete ⟨some (.object [("writer", .object [("name", .string "Ada")]),
    ("year", .object [("gt", Json.ofUInt64 9)])]), none, none⟩

/-- The removal of the books of a year, by a filter with a misspelt column. -/
def misspeltBooks : Query := .delete ⟨some (.object [("yaer", Json.ofUInt64 9)]), none, none⟩

/-- A filter with a misspelt column is not admitted, whatever orders are passed over. -/
theorem misspeltBooks_not_admitted {isPassedOver : Relation → Prop} :
    ¬ misspeltBooks.Admitted repository book isPassedOver := by
  rintro ⟨-, hfilter, -, -⟩
  cases hfilter _ rfl with
  | object each =>
    cases each _ (List.mem_singleton_self _) with
    | group word => simp [IsGroupWord] at word
    | related _ named => cases named
    | column _ _ known => cases known

/-- The options of the writer of a book, with an order by no column in no direction. -/
def misspeltOrder : Json := .object [("order", .object [("nope", .string "sideways")])]

/-- The insert of a book with its writer, who is read back with options. -/
def orderedWriter : InsertQuery :=
  ⟨.object firstBook, none, some (.object [("writer", misspeltOrder)])⟩

/-- The misspelt order is not admitted. -/
theorem orderedWriter_not_admitted :
    ¬ (Query.insert orderedWriter).Admitted repository book fun _ => False := by
  rintro ⟨-, -, -, hrelated⟩
  rcases hrelated writer rfl (none, some misspeltOrder) rfl with ⟨hoptions, -⟩ | ⟨hpassed, -⟩
  · obtain ⟨related, hknown, -, horder⟩ := hoptions
    obtain rfl : author = related := Option.some.inj hknown
    cases horder rfl _ rfl with
    | single each =>
      obtain ⟨hdeclared, -⟩ := each _ (List.mem_singleton_self _)
      cases hdeclared
  · exact hpassed

/-- The statements for the book and its writer are compiled. -/
theorem compiledOrderedWriter : ∃ chain next,
    Returns ((checkedWrites repository).chain "book" (.insert orderedWriter)) Progress.start chain
      next := by
  obtain ⟨plan, r, hplan, hcreated, hseveral⟩ := plannedFirstBook
  have hstem : (checkedWrites repository).projection.config.chainStem = "R" := rfl
  have htrees : (checkedWrites repository).projection.Accepts
      (withoutCreated [⟨writer, ["R0"]⟩] none)
      (withoutCreated [⟨writer, ["R0"]⟩] orderedWriter.include?) book book.name := by
    rw [ProjectionContext.accepts_iff (by decide) (by decide)]
    exact ⟨by decide, by decide, by decide, List.forall_mem_nil _,
      fun _ _ _ _ hrequest => by cases hrequest⟩
  have hwriter : writer.AcceptsCreated (checkedWrites repository).projection book none
      orderedWriter.include? := fun _ =>
    ⟨author, rfl, succeeds_ok, ⟨"", .start, _, _, ProjectionContext.returns_fields_none⟩,
      by rintro _ ⟨⟩, by rintro ⟨⟩⟩
  have hchain : SucceedsIff (plan.chain (checkedWrites repository).projection book none
      orderedWriter.include?) _ := InsertPlan.succeedsIff_chain_of_several rfl hseveral rfl
  rw [hstem, hcreated] at hchain
  obtain ⟨chain, aliases, hcompiled⟩ :=
    hchain.2 ⟨htrees, List.forall_mem_singleton.2 hwriter⟩ r.aliases
  have hmembers : orderedWriter.data.members? = some firstBook := rfl
  refine ⟨chain, { r with aliases }, ?_⟩
  simp only [WriteContext.chain, WriteContext.insert, returns_bind, returns_monadLift, hmembers]
  exact ⟨book, _, ⟨rfl, rfl⟩, plan, r, hplan, returns_naming_of hcompiled⟩

end Library

namespace WriteContext

/-- Later books are removed by a filter whose keys may stand where they do, and the filter with a
misspelt column removes nothing. -/
theorem fails_closed_library :
    (Library.checkedWrites Library.repository).validator = Validator.ofSchema ∧
    (∃ compiled next, (Library.checkedWrites Library.repository).run "book" Library.laterBooks =
        (.ok compiled, next) ∧
      Library.laterBooks.Admitted Library.repository Library.book
        (Library.laterBooks.CreatesRow (Library.checkedWrites Library.repository) Library.book)) ∧
    ∃ error next, (Library.checkedWrites Library.repository).run "book" Library.misspeltBooks =
      (.error error, next) := by
  have hchecked : (Library.checkedWrites Library.repository).validator = Validator.ofSchema := rfl
  obtain ⟨hadmitted, -⟩ := fails_closed hchecked "book" Library.laterBooks
  obtain ⟨-, hrefused⟩ := fails_closed hchecked "book" Library.misspeltBooks
  refine ⟨hchecked, ?_, ?_⟩
  · have hrun : ∃ compiled next, (Library.checkedWrites Library.repository).run "book"
        Library.laterBooks = (.ok compiled, next) := ⟨_, _, rfl⟩
    obtain ⟨compiled, next, hrun⟩ := hrun
    exact ⟨compiled, next, hrun, (hadmitted compiled next hrun).2 Library.book rfl⟩
  · exact hrefused Library.book rfl Library.misspeltBooks_not_admitted

/-- A book is inserted with its writer, who is read back in a misspelt order. -/
theorem order_passed_over : Library.repository.Accepted ∧
    (Library.checkedWrites Library.repository).validator = Validator.ofSchema ∧
    (∃ compiled next, (Library.checkedWrites Library.repository).run "book"
      (.insert Library.orderedWriter) = (.ok compiled, next)) ∧
    ¬ (Query.insert Library.orderedWriter).Admitted Library.repository Library.book
      fun _ => False := by
  obtain ⟨chain, next, hchain⟩ := Library.compiledOrderedWriter
  have hnamed : (Library.checkedWrites Library.repository).projection.IsNamed := Library.named
  obtain ⟨-, hrendered⟩ := succeeds_chain Library.accepted.coherent hnamed hchain
  refine ⟨Library.accepted, rfl, ?_, Library.orderedWriter_not_admitted⟩
  exact (returns_compile_iff hchain).2 (hrendered.2 (by decide))

end WriteContext

end RelationalQuery
