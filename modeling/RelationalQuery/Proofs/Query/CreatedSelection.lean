import RelationalQuery.Proofs.Projection.Acceptance
import RelationalQuery.Proofs.Projection.Meaning
import RelationalQuery.Proofs.Query.SelectionReads

/-!
# Created relations are selected as existing ones are

The selection after an insert takes the columns of created relations out of both trees, and looks
them up in the trees by rules of its own.  These agree with the rules for existing relations unless
the select tree has an entry for the relation that is neither a flag nor a tree, the two trees
disagree on whether to show it, or the order of a single row is malformed.

Main definitions:

- `Reveals` says that the include tree shows a name that the select tree hides.
- `Relation.AsksAlike` says that two trees ask for a relation as for an existing one.
- `WriteContext.Creates` are the relations whose rows an insert creates.

Main results:

- `CreatedRows.succeedsIff_expr`: which entries of the trees a subquery over created rows accepts.
- `accepts_iff_created`: what is asked for of created relations is checked as in the whole trees.
- `InsertPlan.succeedsIff_chain`: which trees the chain of a plan accepts.
- `WriteContext.insert_selects_projected`: inserts accept and output what projections do.
-/

namespace RelationalQuery

open Sql (Chain Projection Select Statement)

/-! ## Trees without created relations -/

/-- The relation of a name has created rows. -/
def CreatedRows.isCreated (created : List CreatedRows) (name : String) : Bool :=
  created.any (·.relation.name == name)

/-- A relation is created exactly if there are rows for its name. -/
theorem CreatedRows.isCreated_iff {created : List CreatedRows} {name : String} :
    isCreated created name = true ↔ ∃ rows ∈ created, rows.relation.name = name := by
  simp only [isCreated, List.any_eq_true, beq_iff_eq]

/-- Unless the entry of a name is false, it is the included one. -/
theorem includedAs?_eq_get? {includes : Members} {name : String}
    (h : includes.get? name ≠ some (.bool false)) : includedAs? includes name = includes.get? name := by
  unfold includedAs?
  cases hentry : includes.get? name with
  | none => rfl
  | some entry =>
    refine Option.filter_eq_some_iff.2 ⟨rfl, bne_iff_ne.2 fun hfalse => h ?_⟩
    rw [hentry, hfalse]

section

variable {created : List CreatedRows} {tree? select? include? : Option Json} {name : String}

/-- Without created relations a tree has its other members. -/
theorem membersOf_withoutCreated : Json.membersOf (withoutCreated created tree?) =
    (Json.membersOf tree?).filter fun entry => !CreatedRows.isCreated created entry.1 := by
  match tree? with
  | some (.object _) => rfl
  | none | some .null | some (.bool _) | some (.number _) | some (.string _) | some (.array _) =>
    rfl

theorem mem_membersOf_withoutCreated {entry : String × Json} :
    entry ∈ Json.membersOf (withoutCreated created tree?) ↔
      entry ∈ Json.membersOf tree? ∧ CreatedRows.isCreated created entry.1 = false := by
  rw [membersOf_withoutCreated, List.mem_filter, Bool.not_eq_true']

theorem withoutCreated_eq_none_iff : withoutCreated created tree? = none ↔ tree? = none := by
  rw [withoutCreated, Option.map_eq_none_iff]

theorem isObject_withoutCreated :
    (∀ tree ∈ withoutCreated created tree?, tree.isObject = true) ↔
      ∀ tree ∈ tree?, tree.isObject = true := by
  match tree? with
  | some (.object _) => simp [withoutCreated, Json.isObject]
  | none | some .null | some (.bool _) | some (.number _) | some (.string _) | some (.array _) =>
    simp [withoutCreated, Json.isObject]

/-- A tree without repeated keys has none after the removal. -/
theorem nodup_keys_withoutCreated (distinct : (Json.membersOf tree?).keys.Nodup) :
    (Json.membersOf (withoutCreated created tree?)).keys.Nodup := by
  rw [membersOf_withoutCreated]
  exact distinct.sublist (List.filter_sublist.map _)

/-- Trees without created relations ask for the same, but for nothing under the names of these. -/
theorem request?_withoutCreated :
    request? (withoutCreated created select?) (withoutCreated created include?) name =
      if CreatedRows.isCreated created name = true then none
      else request? select? include? name := by
  have hkeep := fun members : Members => Entries.lookup_filter members
    (fun key => !CreatedRows.isCreated created key) name
  rw [request?_eq_includedAs?, request?_eq_includedAs?]
  unfold includedAs? Members.get?
  rw [membersOf_withoutCreated, membersOf_withoutCreated, hkeep, hkeep]
  by_cases hcreated : CreatedRows.isCreated created name = true
  · simp [hcreated]
  · simp [hcreated]

end

/-- The include tree shows a name that the select tree hides. -/
def Reveals (select? include? : Option Json) (name : String) : Prop :=
  (treeMembers select?).lookup name = some (.bool false) ∧
    (shownAs? (treeMembers include?) name).isSome = true

/-- A name that one of two trees has is asked for, or the include tree reveals it. -/
theorem isSelected_iff {select? include? : Option Json} {name : String} :
    isSelected select? include? name = true ↔
      (request? select? include? name).isSome = true ∨ Reveals select? include? name := by
  rw [request?_eq_includedAs?]
  unfold isSelected isNamed Reveals
  rw [treeMembers_eq, treeMembers_eq, shownAs?_eq, ← Members.get?]
  cases hvalue : (Json.membersOf select?).get? name with
  | none =>
    have hselected : includedAs? (Json.membersOf select?) name = none := by
      rw [includedAs?, hvalue]
      rfl
    simp [hselected]
  | some value =>
    by_cases hhidden : value = .bool false
    · have hselected : includedAs? (Json.membersOf select?) name = none := by
        rw [includedAs?, hvalue, hhidden]
        rfl
      simp [hselected, hhidden]
    · have hselected : includedAs? (Json.membersOf select?) name = some value :=
        Option.filter_eq_some_iff.2 ⟨hvalue, bne_iff_ne.2 hhidden⟩
      simp [hselected, hhidden]

/-! ## Created relations -/

/-- Two trees ask for a relation in a way that does not depend on whether its rows are created: the
select tree has a flag or a tree of its own for it, the include tree does not turn down what the
select tree shows nor show what this hides, and the order of its rows is one. -/
structure Relation.AsksAlike (relation : Relation) (context : ProjectionContext) (table : Table)
    (select? include? : Option Json) : Prop where
  selection : ∀ value, (treeMembers select?).lookup relation.name = some value →
    value.isObject = true ∨ ∃ flag, value = .bool flag
  shown : ∀ value, (treeMembers select?).lookup relation.name = some value →
    value ≠ .bool false → (treeMembers include?).lookup relation.name ≠ some (.bool false)
  hidden : (treeMembers select?).lookup relation.name = some (.bool false) →
    shownAs? (treeMembers include?) relation.name = none
  order : relation.shape.isSingular = true → ∀ related,
    context.repository.table? relation.relatedTable = some related →
      AcceptsOrder (entryOption? ((treeMembers include?).lookup relation.name) "order") related
        (joinPath (joinPath table.name relation.name) "order")

namespace Relation.AsksAlike

variable {relation : Relation} {context : ProjectionContext} {table : Table}
  {select? include? : Option Json}

/-- What is asked for is read from the entries of both trees if one of them names the relation. -/
theorem request?_eq (h : relation.AsksAlike context table select? include?) :
    request? select? include? relation.name =
      if isSelected select? include? relation.name = true then
        some (((Json.membersOf select?).get? relation.name).bind selectTree?,
          (Json.membersOf include?).get? relation.name)
      else none := by
  have hincluded : ∀ entry, includedAs? (Json.membersOf include?) relation.name = some entry →
      (Json.membersOf include?).get? relation.name = some entry := by
    intro entry hentry
    exact (Option.filter_eq_some_iff.1 hentry).1
  rw [request?_eq_includedAs?]
  unfold isSelected isNamed
  cases hvalue : (Json.membersOf select?).get? relation.name with
  | none =>
    have hunnamed : includedAs? (Json.membersOf select?) relation.name = none := by
      rw [includedAs?, hvalue, Option.filter_none]
    rw [hunnamed]
    cases hentry : includedAs? (Json.membersOf include?) relation.name with
    | none => simp
    | some entry => simp [hincluded entry hentry]
  | some value =>
    by_cases hshown : value = .bool false
    · subst hshown
      have hunnamed : includedAs? (Json.membersOf select?) relation.name = none := by
        rw [includedAs?, hvalue]
        rfl
      rw [hunnamed, ← shownAs?_eq, ← treeMembers_eq, h.hidden hvalue]
      simp
    · have hnamed : includedAs? (Json.membersOf select?) relation.name = some value := by
        rw [includedAs?_eq_get? (by simpa [hvalue] using hshown), hvalue]
      have hentry : includedAs? (Json.membersOf include?) relation.name =
          (Json.membersOf include?).get? relation.name :=
        includedAs?_eq_get? (h.shown value hvalue hshown)
      simp [hnamed, hshown, hentry]

end Relation.AsksAlike

/-! ## Acceptance -/

namespace CreatedRows

variable {context : ProjectionContext}

/-- The order of created rows is only checked if there may be several. -/
theorem succeedsIff_order {α : Type} {isSingular : Bool} {order? : Option Json} {related : Table}
    {scope? : Option String} {path : String} {g : List Sql.OrderTerm → α} :
    SucceedsIff (if isSingular = true then (pure [] : Naming (List Sql.OrderTerm)) >>= fun order =>
        pure (g order)
      else (monadLift (orderTerms? order? related scope? path) : Naming (List Sql.OrderTerm)) >>=
        fun order => pure (g order))
      ((!isSingular) = true → AcceptsOrder order? related path) := by
  cases isSingular with
  | true => exact succeedsIff_pure.bind_pure.congr (by simp)
  | false => exact ProjectionContext.succeedsIff_orderTerms?.bind_pure.congr (by simp)

/-- The subquery over created rows is accepted exactly if what is asked for of the relation is, where
rows of a singular relation are not ordered. -/
theorem succeedsIff_expr {created : CreatedRows} {selection? included? : Option Json}
    {path : String} :
    SucceedsIff (created.expr context selection? included? path)
      (context.AcceptsRows created.relation (!created.relation.shape.isSingular) selection?
        included? path) := by
  simp only [expr]
  refine SucceedsIff.congr (SucceedsIff.bind_monadLift (P := fun options => True ∧
    ∃ related, context.repository.table? created.relation.relatedTable = some related ∧
      context.Accepts (selection? <|> options.select?) options.include? related path ∧
      (∀ filter ∈ options.filter?,
        context.filters.Accepts filter related (joinPath path "where")) ∧
      ((!created.relation.shape.isSingular) = true →
        AcceptsOrder options.order? related (joinPath path "order")))
    fun options _ => ?_) ?_
  · refine .bind (.inProjections succeedsIff_fresh) fun label => ?_
    refine ProjectionContext.succeedsIff_table fun related => ?_
    refine .bind ProjectionContext.succeedsIff_fields fun object => ?_
    cases options.filter? with
    | none => exact (SucceedsIff.bind succeedsIff_pure fun _ => succeedsIff_order).congr (by simp)
    | some filter =>
      refine (SucceedsIff.bind (.inFilters FilterContext.succeedsIff_condition)
        fun _ => succeedsIff_order).congr ?_
      simp
  · simp only [IncludeOptions.parse, bind_eq_ok_iff, pure_eq_ok_iff, true_and,
      ProjectionContext.AcceptsRows]
    constructor
    · rintro ⟨_, ⟨_, hcheck, rfl⟩, related, hknown, hrows⟩
      exact ⟨related, hknown, ⟨_, hcheck⟩, hrows⟩
    · rintro ⟨related, hknown, ⟨_, hcheck⟩, hrows⟩
      exact ⟨_, ⟨_, hcheck, rfl⟩, related, hknown, hrows⟩

end CreatedRows

section

variable {context : ProjectionContext} {table : Table} {created : List CreatedRows}
  {select? include? : Option Json}

/-- What two trees ask for of a created relation is accepted, if they name it. -/
def Relation.AcceptsCreated (relation : Relation) (context : ProjectionContext) (table : Table)
    (select? include? : Option Json) : Prop :=
  isSelected select? include? relation.name = true →
    context.AcceptsRows relation (!relation.shape.isSingular)
      (((Json.membersOf select?).get? relation.name).bind selectTree?)
      ((Json.membersOf include?).get? relation.name) (joinPath table.name relation.name)

/-- The columns of created relations are accepted exactly if what is asked for of them is. -/
theorem succeedsIff_createdColumns :
    SucceedsIff (createdColumns context table created select? include?)
      (∀ rows ∈ created, rows.relation.AcceptsCreated context table select? include?) := by
  refine (SucceedsIff.mapM fun _ _ => CreatedRows.succeedsIff_expr.bind_pure).congr ?_
  simp only [List.mem_filter, and_imp, Relation.AcceptsCreated]

/-- The selection after an insert is accepted exactly if the trees without created relations are, and
what is asked for of the created ones. -/
theorem succeedsIff_createdSelect (known : context.repository.table? table.name = some table)
    {parent : String} :
    SucceedsIff (createdSelect context table parent created select? include?)
      (context.Accepts (withoutCreated created select?) (withoutCreated created include?) table
          table.name ∧
        ∀ rows ∈ created, rows.relation.AcceptsCreated context table select? include?) := by
  simp only [createdSelect]
  refine (SucceedsIff.bind ProjectionContext.succeedsIff_projections fun _ =>
    succeedsIff_createdColumns.bind_pure).congr ?_
  simp [known]

/-- What is asked for of a created relation is accepted exactly if the trees' request for it is. -/
theorem Relation.AsksAlike.accepts_iff {relation : Relation}
    (h : relation.AsksAlike context table select? include?) :
    relation.AcceptsCreated context table select? include? ↔
      ∀ request ∈ request? select? include? relation.name,
        context.AcceptsRows relation true request.1 request.2
          (joinPath table.name relation.name) := by
  rw [h.request?_eq, AcceptsCreated]
  by_cases hselected : isSelected select? include? relation.name = true
  · rw [if_pos hselected]
    simp only [hselected, forall_const, Option.mem_some_iff, forall_eq']
    refine exists_congr fun related => and_congr_right fun hrelated => ?_
    refine and_congr_right fun _ => and_congr_right fun _ => and_congr_right fun _ => ?_
    by_cases hsingular : relation.shape.isSingular = true
    · rw [IncludeOptions.ofEntry_eq]
      exact iff_of_true (fun _ => h.order hsingular related hrelated)
        fun _ => h.order hsingular related hrelated
    · simp [hsingular]
  · rw [if_neg hselected]
    simp [hselected]

/-- Trees that ask for the created relations as for any others are accepted exactly if the trees
without created relations are, and what is asked for of the created ones. -/
theorem accepts_iff_created
    (distinctSelect : (Json.membersOf select?).keys.Nodup)
    (distinctInclude : (Json.membersOf include?).keys.Nodup)
    (relations : ∀ rows ∈ created, table.relation? rows.relation.name = some rows.relation)
    (alike : ∀ rows ∈ created, rows.relation.AsksAlike context table select? include?) :
    (context.Accepts (withoutCreated created select?) (withoutCreated created include?) table
          table.name ∧
        ∀ rows ∈ created, rows.relation.AcceptsCreated context table select? include?) ↔
      context.Accepts select? include? table table.name := by
  rw [ProjectionContext.accepts_iff (nodup_keys_withoutCreated distinctSelect)
    (nodup_keys_withoutCreated distinctInclude),
    ProjectionContext.accepts_iff distinctSelect distinctInclude]
  constructor
  -- The remaining trees say nothing about the names of created relations, so each check of an entry
  -- or a request of the whole trees is split by whether its name is one of these.
  · rintro ⟨⟨hselectTree, hincludeTree, hrelations, hentries, hrequests⟩, hrows⟩
    refine ⟨isObject_withoutCreated.1 hselectTree, isObject_withoutCreated.1 hincludeTree,
      fun entry hentry => ?_, fun entry hentry => ?_, fun name relation hrelation => ?_⟩
    · by_cases hname : CreatedRows.isCreated created entry.1 = true
      · obtain ⟨rows, hmem, hsame⟩ := CreatedRows.isCreated_iff.1 hname
        rw [← hsame, relations rows hmem]
        rfl
      · exact hrelations entry (mem_membersOf_withoutCreated.2 ⟨hentry, by simpa using hname⟩)
    · by_cases hname : CreatedRows.isCreated created entry.1 = true
      · obtain ⟨rows, hmem, hsame⟩ := CreatedRows.isCreated_iff.1 hname
        have hvalue := (Members.get?_eq_some_iff distinctSelect).2 hentry
        rw [← hsame] at hvalue
        rw [Table.AcceptsEntry, ← hsame, relations rows hmem]
        exact succeeds_checkRelationSelection.2 ((alike rows hmem).selection entry.2 hvalue)
      · exact hentries entry (mem_membersOf_withoutCreated.2 ⟨hentry, by simpa using hname⟩)
    · by_cases hname : CreatedRows.isCreated created name = true
      · obtain ⟨rows, hmem, rfl⟩ := CreatedRows.isCreated_iff.1 hname
        obtain rfl : rows.relation = relation := by
          rwa [relations rows hmem, Option.some_inj] at hrelation
        exact (alike rows hmem).accepts_iff.1 (hrows rows hmem)
      · have hsame : request? (withoutCreated created select?) (withoutCreated created include?)
            name = request? select? include? name := by
          rw [request?_withoutCreated, if_neg hname]
        rw [← hsame]
        exact hrequests name relation hrelation
  · rintro ⟨hselectTree, hincludeTree, hrelations, hentries, hrequests⟩
    refine ⟨⟨isObject_withoutCreated.2 hselectTree, isObject_withoutCreated.2 hincludeTree,
      fun entry hentry => hrelations entry (mem_membersOf_withoutCreated.1 hentry).1,
      fun entry hentry => hentries entry (mem_membersOf_withoutCreated.1 hentry).1,
      fun name relation hrelation => ?_⟩, fun rows hmem => ?_⟩
    · rw [request?_withoutCreated]
      by_cases hname : CreatedRows.isCreated created name = true
      · simp [hname]
      · rw [if_neg hname]
        exact hrequests name relation hrelation
    · exact (alike rows hmem).accepts_iff.2
        (hrequests rows.relation.name rows.relation (relations rows hmem))

end

/-! ## Output names -/

section

variable {context : ProjectionContext} {table : Table} {created : List CreatedRows}
  {select? include? : Option Json} {a b : Aliases}

/-- The output names of compiled trees. -/
theorem ProjectionContext.names_of_projections {name scope : String} {columns : List Projection}
    (known : context.repository.table? name = some table)
    (compiled : Returns (context.projections select? include? name scope) a columns b) :
    columns.map Projection.name = (ProjectionTask.fields select? include?).names table := by
  obtain ⟨found, fields, hfound, rfl, hfields⟩ := derives_of_projections compiled
  obtain rfl : found = table := by
    rwa [hfound, Option.some_inj] at known
  rw [List.map_map, ← hfields.names_eq]
  exact List.map_congr_left fun field _ => outputColumn_name field

/-- Created relations that the trees name are output under their names. -/
theorem names_createdColumns {columns : List Projection}
    (compiled : Returns (createdColumns context table created select? include?) a columns b) :
    columns.map Projection.name =
      (created.filter fun rows => isSelected select? include? rows.relation.name).map
        (·.relation.name) := by
  have hcolumns := forall₂_of_returns_mapM
    (R := fun rows column => Projection.name column = rows.relation.name) compiled
    fun rows _ _ column _ hcolumn => by
      simp only [returns_bind, returns_pure] at hcolumn
      obtain ⟨value, _, -, rfl, -⟩ := hcolumn
      rfl
  rw [← List.forall₂_eq_eq_eq, List.forall₂_map_left_iff, List.forall₂_map_right_iff]
  exact hcolumns.flip

/-- The selection after an insert outputs what the trees ask for, and what they reveal of the created
relations. -/
theorem mem_names_createdSelect_iff (known : context.repository.table? table.name = some table)
    (distinctSelect : (Json.membersOf select?).keys.Nodup)
    (distinctInclude : (Json.membersOf include?).keys.Nodup) {parent : String} {select : Select}
    (compiled : Returns (createdSelect context table parent created select? include?) a select b)
    {name : String} :
    name ∈ select.columns.map Projection.name ↔
      name ∈ (ProjectionTask.fields select? include?).names table ∨
        CreatedRows.isCreated created name = true ∧ Reveals select? include? name := by
  simp only [createdSelect, returns_bind, returns_pure] at compiled
  obtain ⟨columns, _, hcolumns, relations, _, hrelations, rfl, rfl⟩ := compiled
  have hshown : name ∈ relations.map Projection.name ↔
      CreatedRows.isCreated created name = true ∧ isSelected select? include? name = true := by
    rw [names_createdColumns hrelations, CreatedRows.isCreated_iff]
    simp only [List.mem_map, List.mem_filter]
    constructor
    · rintro ⟨rows, ⟨hrows, hselected⟩, rfl⟩
      exact ⟨⟨rows, hrows, rfl⟩, hselected⟩
    · rintro ⟨⟨rows, hrows, rfl⟩, hselected⟩
      exact ⟨rows, ⟨hrows, hselected⟩, rfl⟩
  change name ∈ (columns ++ relations).map Projection.name ↔ _
  rw [List.map_append, List.mem_append, hshown, isSelected_iff,
    ProjectionContext.names_of_projections known hcolumns,
    ProjectionContext.mem_names_fields (nodup_keys_withoutCreated distinctSelect)
      (nodup_keys_withoutCreated distinctInclude),
    ProjectionContext.mem_names_fields distinctSelect distinctInclude, withoutCreated_eq_none_iff,
    request?_withoutCreated, or_assoc, or_assoc]
  refine or_congr_right ?_
  by_cases hname : CreatedRows.isCreated created name = true <;> simp [hname]

/-- The selection after an insert outputs what the trees ask for. -/
theorem mem_names_createdSelect (known : context.repository.table? table.name = some table)
    (distinctSelect : (Json.membersOf select?).keys.Nodup)
    (distinctInclude : (Json.membersOf include?).keys.Nodup)
    (alike : ∀ rows ∈ created, rows.relation.AsksAlike context table select? include?)
    {parent : String} {select : Select}
    (compiled : Returns (createdSelect context table parent created select? include?) a select b)
    {name : String} :
    name ∈ select.columns.map Projection.name ↔
      name ∈ (ProjectionTask.fields select? include?).names table := by
  rw [mem_names_createdSelect_iff known distinctSelect distinctInclude compiled, or_iff_left]
  rintro ⟨hcreated, hhidden, hnamed⟩
  obtain ⟨rows, hrows, rfl⟩ := CreatedRows.isCreated_iff.1 hcreated
  rw [(alike rows hrows).hidden hhidden] at hnamed
  cases hnamed

end

/-! ## Inserts -/

section

variable {context : ProjectionContext} {table : Table} {plan : InsertPlan}
  {select? include? : Option Json} {a b : Aliases}

/-- The chain of a plan for several rows is compiled exactly if the trees without the created
relations are accepted, and what is asked for of these. -/
theorem InsertPlan.succeedsIff_chain_of_several
    (known : context.repository.table? table.name = some table) (several : plan.isSingle = false)
    (projected : (select?.isSome || include?.isSome) = true) :
    SucceedsIff (plan.chain context table select? include?)
      (context.Accepts (withoutCreated (plan.created context.config.chainStem) select?)
          (withoutCreated (plan.created context.config.chainStem) include?) table table.name ∧
        ∀ rows ∈ plan.created context.config.chainStem,
          rows.relation.AcceptsCreated context table select? include?) := by
  simp only [chain, several, projected, Bool.false_eq_true, if_false, if_true]
  exact (succeedsIff_createdSelect known).bind_pure

/-- The chain of a plan is compiled exactly if the trees are accepted. -/
theorem InsertPlan.succeedsIff_chain (known : context.repository.table? table.name = some table)
    (fits : plan.Fits table)
    (distinctSelect : (Json.membersOf select?).keys.Nodup)
    (distinctInclude : (Json.membersOf include?).keys.Nodup)
    (alike : ∀ row ∈ plan.parents ++ plan.children,
      row.relation.AsksAlike context table select? include?) :
    SucceedsIff (plan.chain context table select? include?)
      (context.Accepts select? include? table table.name) := by
  have hunprojected : (select?.isSome || include?.isSome) ≠ true →
      context.Accepts select? include? table table.name := by
    intro hnone
    obtain ⟨rfl, rfl⟩ : select? = none ∧ include? = none := by simpa using hnone
    exact ⟨"", _, _, .start, ProjectionContext.returns_fields_none⟩
  have hcreated : ∀ rows ∈ plan.created context.config.chainStem,
      rows.relation.AsksAlike context table select? include? := by
    intro rows hrows
    obtain ⟨row, hrow, hsame⟩ := exists_row_of_mem_created rows hrows
    rw [← hsame]
    exact alike row hrow
  simp only [chain]
  refine SucceedsIff.ite (fun _ => ?_) fun _ => SucceedsIff.ite (fun _ => ?_) fun hprojected => ?_
  · refine SucceedsIff.ite (fun _ => ?_) fun hprojected => ?_
    · exact ProjectionContext.succeedsIff_projections.bind_pure.congr (by simp [known])
    · exact succeedsIff_pure.bind_pure.congr (iff_of_true trivial (hunprojected hprojected))
  · exact (succeedsIff_createdSelect known).bind_pure.congr
      (accepts_iff_created distinctSelect distinctInclude
        (fun _ => relation?_of_mem_created fits) hcreated)
  · exact succeedsIff_pure.congr (iff_of_true trivial (hunprojected hprojected))

/-- The only selection of a chain reads the created rows. -/
theorem InsertPlan.createdSelect_of_mem_chain {chain : Chain} {select : Select}
    (compiled : Returns (plan.chain context table select? include?) a chain b)
    (hselect : .select select ∈ chain.statements) :
    ∃ c d, Returns (createdSelect context table (plan.ownName context.config.chainStem)
      (plan.created context.config.chainStem) select? include?) c select d := by
  obtain ⟨returning, selections, rfl, -, hselected⟩ := chain_cases compiled
  have hmem : Statement.select select ∈ selections := by
    simpa [parentStatement, ownStatement, childStatement] using hselect
  split at hselected
  · obtain ⟨found, c, d, hfound, rfl⟩ := hselected
    obtain rfl : select = found := by simpa using hmem
    exact ⟨c, d, hfound⟩
  · rw [hselected] at hmem
    cases hmem

end

namespace WriteContext

variable {context : WriteContext}

/-- An insert of data into a table creates a row of a relation besides the new row. -/
def Creates (context : WriteContext) (table : Table) (data : Json) (relation : Relation) : Prop :=
  ∃ members plan s t, data = .object members ∧
    Returns (context.insertPlan table members) s plan t ∧
    ∃ row ∈ plan.parents ++ plan.children, row.relation = relation

/-- Created relations are selected as existing ones are: if the trees ask for each of them in a way
that does not depend on where its rows are read from, an insert with the trees is compiled exactly
if the data and the projection of the trees are, and its selection has the output columns of this
projection. -/
theorem insert_selects_projected {table : String} {data : Json} {select? include? : Option Json}
    (distinctSelect : (Json.membersOf select?).keys.Nodup)
    (distinctInclude : (Json.membersOf include?).keys.Nodup)
    (alike : ∀ info, context.repository.table? table = some info → ∀ relation,
      context.Creates info data relation →
        relation.AsksAlike context.projection info select? include?) :
    (∀ s chain t, Returns (context.insert table data select? include?) s chain t →
      ∃ columns b, Returns (context.projection.projections select? include? table table) .start
          columns b ∧
        ∀ select, .select select ∈ chain.statements → ∀ name,
          name ∈ select.columns.map Projection.name ↔ name ∈ columns.map Projection.name) ∧
    ∀ s chain t columns b, Returns (context.insert table data none none) s chain t →
      Returns (context.projection.projections select? include? table table) .start columns b →
        ∃ chain t, Returns (context.insert table data select? include?) s chain t := by
  -- Whether the chain of a plan is compiled does not depend on the plan.
  have hchain : ∀ {info members plan s t}, context.repository.table? table = some info →
      data = .object members → Returns (context.insertPlan info members) s plan t →
        SucceedsIff (plan.chain context.projection info select? include?)
          (context.projection.Accepts select? include? info table) := by
    intro info members plan s t hknown hdata hplan
    rw [← Repository.name_of_table? hknown]
    exact InsertPlan.succeedsIff_chain (Repository.table?_self hknown) (insertPlan_fits hplan)
      distinctSelect distinctInclude fun row hrow =>
        alike info hknown row.relation ⟨members, plan, s, t, hdata, hplan, row, hrow, rfl⟩
  constructor
  · intro s chain t compiled
    obtain ⟨info, members, plan, _, _, _, hknown, hdata, hplan, hcompiled⟩ := plan_of_insert compiled
    have haccepts := (hchain hknown hdata hplan).1 _ _ _ hcompiled
    have hprojected : ∃ columns b, Returns
        (context.projection.projections select? include? table table) .start columns b :=
      ProjectionContext.succeedsIff_projections.2 ⟨info, hknown, haccepts⟩ .start
    obtain ⟨columns, b, hcolumns⟩ := hprojected
    refine ⟨columns, b, hcolumns, fun select hselect name => ?_⟩
    obtain ⟨_, _, hselect⟩ := InsertPlan.createdSelect_of_mem_chain hcompiled hselect
    rw [ProjectionContext.names_of_projections hknown hcolumns]
    refine mem_names_createdSelect (Repository.table?_self hknown) distinctSelect distinctInclude ?_
      hselect
    intro rows hrows
    obtain ⟨row, hrow, hsame⟩ := InsertPlan.exists_row_of_mem_created rows hrows
    exact alike info hknown _ ⟨members, plan, _, _, hdata, hplan, row, hrow, hsame⟩
  · intro s chain t columns b compiled hcolumns
    obtain ⟨info, members, plan, r, hknown, rfl, hplan, -⟩ := insert_cases compiled
    obtain ⟨found, hfound, haccepts⟩ := ProjectionContext.succeedsIff_projections.1 _ _ _ hcolumns
    obtain rfl : found = info := Option.some.inj (hfound.symm.trans hknown)
    obtain ⟨chain, aliases, hcompiled⟩ := (hchain hknown rfl hplan).2 haccepts r.aliases
    refine ⟨chain, { r with aliases }, ?_⟩
    simp only [insert, Json.members?, returns_bind, returns_monadLift]
    exact ⟨_, _, ⟨Repository.table_eq_ok_iff.2 hknown, rfl⟩, plan, r, hplan,
      returns_naming_of hcompiled⟩

end WriteContext

/-! ## The writer of a new book -/

namespace Library

/-- The writer of a book. -/
def shownWriter : Json := .object [("writer", .bool true)]

/-- No writer. -/
def hiddenWriter : Json := .object [("writer", .bool false)]

/-- Nothing but the writer is created with a book. -/
theorem writer_of_creates {data : Json} {relation : Relation}
    (h : (checkedWrites repository).Creates book data relation) : relation = writer := by
  obtain ⟨members, plan, s, t, -, hplan, row, hrow, rfl⟩ := h
  have hfits := WriteContext.insertPlan_fits hplan
  have hrelation : book.relation? row.relation.name = some row.relation := by
    rcases List.mem_append.1 hrow with hrow | hrow
    · exact (hfits.parents row hrow).relation
    · exact (hfits.children row hrow).relation
  exact List.mem_singleton.1 (Table.mem_of_relation? hrelation)

/-- The writer is asked for as that of any book. -/
theorem asksAlike_writerTree : writer.AsksAlike (checkedWrites repository).projection book
    (some writerTree) none where
  selection _ hvalue := .inl (by obtain rfl := Option.some.inj hvalue; rfl)
  shown _ _ _ hentry := by cases hentry
  hidden hvalue := by cases Option.some.inj hvalue
  order _ _ _ := ⟨none, succeeds_ok⟩

/-- A selected writer is projected even if the include tree hides it. -/
theorem projectedHiddenWriter : ∃ columns b,
    Returns ((checkedWrites repository).projection.projections (some shownWriter)
      (some hiddenWriter) "book" "book") .start columns b := by
  have hrows : (checkedWrites repository).projection.AcceptsRows writer true none none
      (joinPath "book" "writer") := by
    refine ⟨author, rfl, succeeds_ok, ?_, fun _ hfilter => ?_, fun _ => ⟨none, succeeds_ok⟩⟩
    · exact ⟨"", .start, _, _, ProjectionContext.returns_fields_none⟩
    · cases hfilter
  have haccepts : (checkedWrites repository).projection.Accepts (some shownWriter)
      (some hiddenWriter) book "book" := by
    rw [ProjectionContext.accepts_iff (by decide) (by decide)]
    refine ⟨by decide, by decide, by decide, ?_, fun name relation hrelation request hrequest => ?_⟩
    · rw [shownWriter, Json.membersOf, List.forall_mem_singleton,
        Table.acceptsEntry_of_relation rfl, succeeds_checkRelationSelection]
      exact .inr ⟨true, rfl⟩
    · obtain rfl : relation = writer := List.mem_singleton.1 (Table.mem_of_relation? hrelation)
      obtain rfl : "writer" = name := Table.name_of_relation? hrelation
      obtain rfl : (none, none) = request := Option.some.inj hrequest
      exact hrows
  exact ProjectionContext.succeedsIff_projections.2 ⟨book, rfl, haccepts⟩ .start

/-- A new book with its writer is planned as two rows. -/
theorem plannedFirstBook : ∃ plan r,
    Returns ((checkedWrites repository).insertPlan book firstBook) Progress.start plan r ∧
      plan.created "R" = [⟨writer, ["R0"]⟩] ∧ plan.isSingle = false :=
  ⟨_, _, rfl, rfl, rfl⟩

end Library

namespace WriteContext

/-- The writer of a new book is selected with all of the books, as the writer of any book is. -/
theorem insert_selects_projected_library :
    (Json.membersOf (some Library.writerTree)).keys.Nodup ∧ (Json.membersOf none).keys.Nodup ∧
      (∀ info, Library.repository.table? "book" = some info → ∀ relation,
        (Library.checkedWrites Library.repository).Creates info (.object Library.firstBook)
            relation →
          relation.AsksAlike (Library.checkedWrites Library.repository).projection info
            (some Library.writerTree) none) ∧
      ∃ parent own select next, Returns ((Library.checkedWrites Library.repository).insert "book"
          (.object Library.firstBook) (some Library.writerTree) none) Progress.start
            ⟨"R", [parent, own, .select select]⟩ next ∧
        ∃ columns b, Returns ((Library.checkedWrites Library.repository).projection.projections
            (some Library.writerTree) none "book" "book") .start columns b ∧
          ∀ name, name ∈ select.columns.map Projection.name ↔
            name ∈ columns.map Projection.name := by
  have hselect : (Json.membersOf (some Library.writerTree)).keys.Nodup := by decide
  have hinclude : (Json.membersOf none).keys.Nodup := by decide
  have halike : ∀ info, Library.repository.table? "book" = some info → ∀ relation,
      (Library.checkedWrites Library.repository).Creates info (.object Library.firstBook) relation →
        relation.AsksAlike (Library.checkedWrites Library.repository).projection info
          (some Library.writerTree) none := by
    intro info hinfo relation hcreates
    obtain rfl : Library.book = info := Option.some.inj hinfo
    rw [Library.writer_of_creates hcreates]
    exact Library.asksAlike_writerTree
  obtain ⟨parent, own, select, next, hcompiled, -, -⟩ := Library.compiledFirstBook
  obtain ⟨columns, b, hcolumns, hnames⟩ :=
    (insert_selects_projected hselect hinclude halike).1 _ _ _ hcompiled
  exact ⟨hselect, hinclude, halike, parent, own, select, next, hcompiled, columns, b, hcolumns,
    hnames select (by simp)⟩

/-- A book is inserted with its writer, and its writer is selected whether or not the include tree
hides it; but an insert that does both is refused. -/
theorem insert_refuses_projected : Library.repository.Accepted ∧
    (∃ chain t, Returns ((Library.checkedWrites Library.repository).insert "book"
      (.object Library.firstBook) none none) Progress.start chain t) ∧
    (∃ columns b, Returns ((Library.checkedWrites Library.repository).projection.projections
      (some Library.shownWriter) (some Library.hiddenWriter) "book" "book") .start columns b) ∧
    ¬ ∃ chain t, Returns ((Library.checkedWrites Library.repository).insert "book"
      (.object Library.firstBook) (some Library.shownWriter) (some Library.hiddenWriter))
        Progress.start chain t := by
  obtain ⟨plan, r, hplan, hcreated, hseveral⟩ := Library.plannedFirstBook
  refine ⟨Library.accepted, ?_, Library.projectedHiddenWriter, ?_⟩
  · exact ⟨_, _, rfl⟩
  · rintro ⟨chain, t, compiled⟩
    obtain ⟨info, members, found, _, _, _, hinfo, hmembers, hfound, hchain⟩ :=
      plan_of_insert compiled
    obtain rfl : Library.book = info := Option.some.inj hinfo
    obtain rfl : Library.firstBook = members := Json.object.inj hmembers
    obtain ⟨hsame, -⟩ := Prod.mk.inj (hplan.symm.trans hfound)
    obtain rfl : plan = found := Except.ok.inj hsame
    obtain ⟨_, _, -, -, hselected⟩ := InsertPlan.chain_cases hchain
    rw [hseveral] at hselected
    obtain ⟨select, _, _, hselect, -⟩ := hselected
    have hrows : ⟨Library.writer, ["R0"]⟩ ∈ plan.created "R" := by
      rw [hcreated]
      exact List.mem_singleton_self _
    obtain ⟨_, _, hcheck, -⟩ := ((succeedsIff_createdSelect rfl).1 _ _ _ hselect).2 _ hrows rfl
    exact not_succeeds_error hcheck

end WriteContext

end RelationalQuery
