import RelationalQuery.Proofs.Filter.Acceptance
import RelationalQuery.Proofs.Json.DistinctNames
import RelationalQuery.Proofs.Projection.Column
import RelationalQuery.Proofs.Projection.Derivation
import RelationalQuery.Proofs.Projection.Trees

/-!
# Which select and include trees are accepted

Whether two trees are accepted is decided by the trees and the tables alone: neither the aliases
that were handed out before them nor the name of the rows that they are put on play a part.

Main definitions:

- `request?` is what two trees ask for under a name.
- `ProjectionContext.Accepts` says that two trees are accepted over a table, and
  `ProjectionContext.AcceptsRows` that what they ask for of a relation is.
- `ProjectionContext.AcceptsTrees` are the conditions on two trees, one for each check.
- `ProjectionTask.names` are the names that a part of two trees outputs.

Main results:

- `ProjectionContext.enables_fields`: acceptance depends on neither the state nor the scope.
- `ProjectionContext.accepts_iff`: two trees are accepted exactly if all checks succeed.
- `ProjectionContext.Derives.names_eq` and `ProjectionContext.mem_names_fields`: what is output.
-/

namespace RelationalQuery

open Sql (ColumnRef)

/-! ## Columns and orders -/

mutual

/-- The entry of a key is accepted for every column that the key is inside of. -/
theorem succeeds_nestedEntry : ∀ {field? : Option Field} {target other : ColumnRef}
    {key keyPath : String} {entry : Json}, Succeeds (nestedEntry field? target key keyPath entry) →
      Succeeds (nestedEntry field? other key keyPath entry)
  | field?, target, other, key, keyPath, .bool shown, h => by
    cases shown with
    | false | true =>
      rw [nestedEntry]
      exact succeeds_ok
  | some field, target, other, key, keyPath, .object members, h => by
    rw [nestedEntry] at h ⊢
    split at h
    · rename_i hobject
      rw [if_pos hobject, succeeds_bind_pure]
      exact succeeds_nestedFields (succeeds_bind_pure.1 h)
    · simp at h
  | none, target, other, key, keyPath, .object members, h
  | field?, target, other, key, keyPath, .null, h
  | field?, target, other, key, keyPath, .number _, h
  | field?, target, other, key, keyPath, .string _, h
  | field?, target, other, key, keyPath, .array _, h => by
    simp [nestedEntry] at h

/-- The keys inside an object are accepted for every column that they are inside of. -/
theorem succeeds_nestedFields : ∀ {field : Field} {target other : ColumnRef} {path : String}
    {members : List (String × Json)}, Succeeds (nestedFields field target path members) →
      Succeeds (nestedFields field other path members)
  | field, target, other, path, [], h => by
    rw [nestedFields]
    exact succeeds_ok
  | field, target, other, path, (key, entry) :: rest, h => by
    simp only [nestedFields] at h ⊢
    obtain ⟨child?, hchild, h⟩ := succeeds_bind.1 h
    rw [succeeds_bind_iff fun _ => succeeds_bind_pure] at h
    refine succeeds_bind.2 ⟨child?, hchild, ?_⟩
    rw [succeeds_bind_iff fun _ => succeeds_bind_pure]
    exact ⟨succeeds_nestedEntry h.1, succeeds_nestedFields h.2⟩

end

section

variable {table : Table} {path : String}

/-- The entry of a column is accepted for every scope. -/
theorem succeeds_columnFields {scope other key : String} {value : Json}
    (h : Succeeds (columnFields table scope path key value)) :
    Succeeds (columnFields table other path key value) := by
  simp only [columnFields, succeeds_bind] at h ⊢
  obtain ⟨field, hfield, h⟩ := h
  exact ⟨field, hfield, succeeds_nestedEntry h⟩

/-- An order is accepted for every scope. -/
theorem succeeds_orderTerms? {value? : Option Json} {scope? other? : Option String}
    (h : Succeeds (orderTerms? value? table scope? path)) :
    Succeeds (orderTerms? value? table other? path) := by
  cases value? with
  | none => exact succeeds_ok
  | some value =>
    simp only [orderTerms?, orderTerms, succeeds_bind, succeeds_mapM] at h ⊢
    obtain ⟨objects, hobjects, h⟩ := h
    refine ⟨objects, hobjects, fun entry hentry => ?_⟩
    have hterm := h entry hentry
    simp only [orderTerm, succeeds_bind] at hterm ⊢
    obtain ⟨field, hfield, hterm⟩ := hterm
    refine ⟨field, hfield, ?_⟩
    split
    · exact succeeds_pure
    · rename_i hdirection
      rwa [hdirection] at hterm

end

/-! ## Trees -/

namespace ProjectionContext

variable {context : ProjectionContext}

mutual

/-- Trees that are accepted once are accepted from every state and for every scope. -/
theorem enables_fields : ∀ {select? include? : Option Json} {table : Table}
    {scope other path : String},
    Enables (context.fields select? include? table scope path)
      (context.fields select? include? table other path)
  | none, include?, table, scope, other, path => by
    simp only [fields]
    exact .bind_monadLift fun _ _ => .bind enables_includedFields fun _ _ => enables_pure
  | some (.object members), include?, table, scope, other, path => by
    simp only [fields]
    exact .bind_monadLift fun _ _ => .bind enables_selectedFields fun _ _ =>
      .bind enables_includedFields fun _ _ => enables_pure
  | some .null, include?, table, scope, other, path
  | some (.bool _), include?, table, scope, other, path
  | some (.number _), include?, table, scope, other, path
  | some (.string _), include?, table, scope, other, path
  | some (.array _), include?, table, scope, other, path => by
    simp only [fields]
    exact .bind_monadLift fun _ _ => enables_throw
termination_by select? include? => (Json.sizeOrZero select? + Json.sizeOrZero include?, 1)
decreasing_by
  all_goals
    have := Json.membersSize_membersOf_le include?
    simp only [Json.sizeOrZero_none, Json.sizeOrZero_some, Json.size, Prod.lex_def]
    omega

/-- The entries of a select tree are accepted from every state and for every scope. -/
theorem enables_selectedFields : ∀ {includes members : Members} {table : Table}
    {scope other path : String},
    Enables (context.selectedFields includes members table scope path)
      (context.selectedFields includes members table other path)
  | includes, [], table, scope, other, path => by
    simp only [selectedFields]
    exact enables_pure
  | includes, (key, value) :: rest, table, scope, other, path => by
    simp only [selectedFields]
    cases hrelation : table.relation? key with
    | some relation =>
      by_cases hshown : value = .bool false
      · simp only [hshown, if_true]
        exact .bind enables_pure fun _ _ => .bind enables_selectedFields fun _ _ => enables_pure
      · simp only [hshown, if_false]
        exact .bind_monadLift fun _ _ => .bind enables_relationExpr fun _ _ =>
          .bind enables_pure fun _ _ => .bind enables_selectedFields fun _ _ => enables_pure
    | none =>
      exact .bind (enables_monadLift succeeds_columnFields) fun _ _ =>
        .bind enables_selectedFields fun _ _ => enables_pure
termination_by includes members => (Json.membersSize members + Json.membersSize includes, 0)
decreasing_by
  all_goals
    have := size_includedAs?_le includes key
    have := size_selectTree?_le value
    simp only [Json.membersSize, Prod.lex_def]
    omega

/-- The entries of an include tree are accepted from every state and for every scope. -/
theorem enables_includedFields : ∀ {includes : Members} {named : List String} {table : Table}
    {scope other path : String},
    Enables (context.includedFields includes named table scope path)
      (context.includedFields includes named table other path)
  | [], named, table, scope, other, path => by
    simp only [includedFields]
    exact enables_pure
  | (name, entry) :: rest, named, table, scope, other, path => by
    simp only [includedFields]
    by_cases hhidden : entry = .bool false ∨ named.contains name = true
    · simp only [hhidden, if_true]
      exact .bind enables_pure fun _ _ => .bind enables_includedFields fun _ _ => enables_pure
    · cases hrelation : table.relation? name with
      | some relation =>
        simp only [hhidden, if_false]
        exact .bind enables_relationExpr fun _ _ => .bind enables_pure fun _ _ =>
          .bind enables_includedFields fun _ _ => enables_pure
      | none =>
        simp only [hhidden, if_false]
        exact .bind enables_throw fun _ _ => .bind enables_includedFields fun _ _ => enables_pure
termination_by includes => (Json.membersSize includes, 0)
decreasing_by
  all_goals
    simp only [Json.membersSize, Json.sizeOrZero, Prod.lex_def]
    omega

/-- A relation is accepted from every state and for every outer scope. -/
theorem enables_relationExpr {relation : Relation} {selection? included? : Option Json}
    {outer other path : String} :
    Enables (context.relationExpr relation selection? included? outer path)
      (context.relationExpr relation selection? included? other path) := by
  simp only [relationExpr]
  refine .bind_monadLift fun related _ => .bind_monadLift fun _ _ =>
    .bind (.inProjections enables_fresh) fun _ _ => .bind enables_fields fun _ _ => ?_
  cases (IncludeOptions.ofEntry included?).filter? with
  | none =>
    exact .bind enables_pure fun _ _ => .bind (enables_monadLift succeeds_orderTerms?) fun _ _ =>
      enables_pure
  | some filter =>
    exact .bind (.inFilters FilterContext.enables_condition) fun _ _ => .bind enables_pure
      fun _ _ => .bind (enables_monadLift succeeds_orderTerms?) fun _ _ => enables_pure
termination_by (Json.sizeOrZero selection? + Json.sizeOrZero included?, 2)
decreasing_by
  have := IncludeOptions.size_le included?
  have := size_orElse_le selection? (IncludeOptions.ofEntry included?).select?
  simp only [Prod.lex_def]
  omega

end

end ProjectionContext

/-! ## What is checked -/

/-- An order is accepted over a table; errors name the entries below a path. -/
def AcceptsOrder (order? : Option Json) (table : Table) (path : String) : Prop :=
  ∃ scope?, Succeeds (orderTerms? order? table scope? path)

/-- The entry of a select tree is a flag or a select tree for a relation, and is accepted for a
column. -/
def Table.AcceptsEntry (table : Table) (path : String) (entry : String × Json) : Prop :=
  match table.relation? entry.1 with
  | some _ => Succeeds (checkRelationSelection entry.2 (joinPath path entry.1))
  | none => ∃ scope, Succeeds (columnFields table scope path entry.1 entry.2)

/-- The entry of a relation in a select tree is a flag or a select tree. -/
theorem succeeds_checkRelationSelection {value : Json} {path : String} :
    Succeeds (checkRelationSelection value path) ↔
      value.isObject = true ∨ ∃ flag, value = .bool flag := by
  cases value <;> simp [checkRelationSelection, Json.isObject]

theorem Table.acceptsEntry_of_relation {table : Table} {path key : String} {value : Json}
    {relation : Relation} (h : table.relation? key = some relation) :
    table.AcceptsEntry path (key, value) ↔
      Succeeds (checkRelationSelection value (joinPath path key)) := by
  rw [AcceptsEntry, h]

theorem Table.acceptsEntry_of_column {table : Table} {path key : String} {value : Json}
    (h : table.relation? key = none) :
    table.AcceptsEntry path (key, value) ↔
      ∃ scope, Succeeds (columnFields table scope path key value) := by
  rw [AcceptsEntry, h]

/-- What two trees ask for under a name: a select tree of its own and an include entry, unless the
select tree hides the name or neither of the trees has it. -/
def request? (select? include? : Option Json) (name : String) :
    Option (Option Json × Option Json) :=
  let options? := shownAs? (treeMembers include?) name
  match (treeMembers select?).lookup name with
  | some value => if value = .bool false then none else some (ownTree? value, options?)
  | none => options?.map fun entry => (none, some entry)

section

variable {select? include? : Option Json} {name : String}

/-- An entry of an include tree is one that is not false. -/
theorem includedAs?_eq_some_iff {includes : Members} (distinct : includes.keys.Nodup)
    {entry : Json} :
    includedAs? includes name = some entry ↔ (name, entry) ∈ includes ∧ entry ≠ .bool false := by
  rw [includedAs?, Option.filter_eq_some_iff, Members.get?_eq_some_iff distinct, bne_iff_ne]

/-- The compiler looks up what is asked for in both trees. -/
theorem request?_eq_includedAs? : request? select? include? name =
    match (Json.membersOf select?).get? name with
    | some value =>
      if value = .bool false then none
      else some (selectTree? value, includedAs? (Json.membersOf include?) name)
    | none => (includedAs? (Json.membersOf include?) name).map fun entry => (none, some entry) := by
  unfold request? Members.get?
  simp only [shownAs?_eq, treeMembers_eq, ownTree?_eq]

/-- What is asked for comes from what the select tree holds under the name, or from the include tree
if the select tree holds nothing there. -/
theorem request?_cases {request : Option Json × Option Json} :
    request? select? include? name = some request ↔
      (∃ value, (Json.membersOf select?).get? name = some value ∧ value ≠ .bool false ∧
        request = (selectTree? value, includedAs? (Json.membersOf include?) name)) ∨
      ((Json.membersOf select?).get? name = none ∧
        ∃ entry, includedAs? (Json.membersOf include?) name = some entry ∧
          request = (none, some entry)) := by
  rw [request?_eq_includedAs?]
  cases (Json.membersOf select?).get? name with
  | some value => by_cases hhidden : value = .bool false <;> simp [hhidden, eq_comm]
  | none =>
    rw [Option.map_eq_some_iff]
    simp [eq_comm]

/-- If no name is repeated, then what is asked for comes from a member of the select tree, or from
one of the include tree if the select tree does not have the name. -/
theorem request?_eq_some_iff (distinctSelect : (Json.membersOf select?).keys.Nodup)
    (distinctInclude : (Json.membersOf include?).keys.Nodup) {request : Option Json × Option Json} :
    request? select? include? name = some request ↔
      (∃ value, (name, value) ∈ Json.membersOf select? ∧ value ≠ .bool false ∧
        request = (selectTree? value, includedAs? (Json.membersOf include?) name)) ∨
      ((Json.membersOf select?).keys.contains name = false ∧
        ∃ entry, (name, entry) ∈ Json.membersOf include? ∧ entry ≠ .bool false ∧
          request = (none, some entry)) := by
  have hnone : (Json.membersOf select?).get? name = none ↔
      (Json.membersOf select?).keys.contains name = false := by
    rw [← Bool.not_eq_true, List.contains_iff_mem]
    exact Entries.lookup_eq_none_iff
  simp only [request?_cases, hnone, Members.get?_eq_some_iff distinctSelect,
    includedAs?_eq_some_iff distinctInclude, and_assoc]

end

namespace ProjectionContext

variable {context : ProjectionContext}

/-- Two trees are accepted over a table; errors name the entries below a path. -/
def Accepts (context : ProjectionContext) (select? include? : Option Json) (table : Table)
    (path : String) : Prop :=
  ∃ scope a fields b, Returns (context.fields select? include? table scope path) a fields b

/-- Whether trees are accepted depends on neither the state nor the scope. -/
theorem succeedsIff_fields {select? include? : Option Json} {table : Table} {scope path : String} :
    SucceedsIff (context.fields select? include? table scope path)
      (context.Accepts select? include? table path) :=
  Enables.succeedsIff (context.fields select? include? table · path) (fun _ _ => enables_fields) scope

/-- What is asked for of a relation is accepted; the order only matters if the rows are ordered. -/
def AcceptsRows (context : ProjectionContext) (relation : Relation) (isOrdered : Bool)
    (selection? included? : Option Json) (path : String) : Prop :=
  let options := IncludeOptions.ofEntry included?
  ∃ related, context.repository.table? relation.relatedTable = some related ∧
    Succeeds (IncludeOptions.check included? path) ∧
    context.Accepts (selection? <|> options.select?) options.include? related path ∧
    (∀ filter ∈ options.filter?, context.filters.Accepts filter related (joinPath path "where")) ∧
    (isOrdered = true → AcceptsOrder options.order? related (joinPath path "order"))

/-- Whether an order is accepted does not depend on the scope. -/
theorem succeedsIff_orderTerms? {order? : Option Json} {table : Table} {scope? : Option String}
    {path : String} :
    SucceedsIff (monadLift (orderTerms? order? table scope? path) : Naming (List Sql.OrderTerm))
      (AcceptsOrder order? table path) :=
  succeedsIff_monadLift.congr ⟨fun h => ⟨scope?, h⟩, fun ⟨_, h⟩ => succeeds_orderTerms? h⟩

theorem succeedsIff_table {name : String} {α : Type} {f : Table → Naming α} {P : Table → Prop}
    (tail : ∀ table, SucceedsIff (f table) (P table)) :
    SucceedsIff (monadLift (context.repository.table name) >>= f)
      (∃ table, context.repository.table? name = some table ∧ P table) := by
  refine (SucceedsIff.bind_monadLift fun table _ => tail table).congr ?_
  simp only [Repository.table_eq_ok_iff]

/-- A relation is accepted exactly if what is asked for of it is. -/
theorem succeedsIff_relationExpr {relation : Relation} {selection? included? : Option Json}
    {outer path : String} :
    SucceedsIff (context.relationExpr relation selection? included? outer path)
      (context.AcceptsRows relation true selection? included? path) := by
  simp only [relationExpr]
  refine succeedsIff_table fun related => .bind succeedsIff_monadLift fun _ => ?_
  refine (SucceedsIff.bind (.inProjections succeedsIff_fresh) fun _ => .bind succeedsIff_fields
    fun _ => ?_).congr (iff_of_eq (true_and _))
  cases (IncludeOptions.ofEntry included?).filter? with
  | none =>
    refine (SucceedsIff.bind succeedsIff_pure fun _ => .bind_pure succeedsIff_orderTerms?).congr ?_
    simp
  | some filter =>
    refine (SucceedsIff.bind (.inFilters FilterContext.succeedsIff_condition) fun _ =>
      .bind succeedsIff_pure fun _ => .bind_pure succeedsIff_orderTerms?).congr ?_
    simp

/-! ## Both trees -/

/-- The entries of a select tree are accepted exactly if each of them is. -/
theorem succeedsIff_selectedFields {includes members : Members} {table : Table}
    {scope path : String} :
    SucceedsIff (context.selectedFields includes members table scope path)
      (∀ entry ∈ members, table.AcceptsEntry path entry ∧
        ∀ relation, table.relation? entry.1 = some relation → entry.2 ≠ .bool false →
          context.AcceptsRows relation true (selectTree? entry.2) (includedAs? includes entry.1)
            (joinPath path entry.1)) := by
  induction members with
  | nil =>
    simp only [selectedFields]
    exact succeedsIff_pure.congr (by simp)
  | cons entry rest ih =>
    obtain ⟨key, value⟩ := entry
    rw [List.forall_mem_cons]
    simp only [selectedFields]
    cases hrelation : table.relation? key with
    | some relation =>
      rw [Table.acceptsEntry_of_relation hrelation]
      by_cases hshown : value = .bool false
      · simp only [hshown, if_true]
        refine (SucceedsIff.bind succeedsIff_pure fun _ => ih.bind_pure).congr ?_
        simp [checkRelationSelection]
      · simp only [hshown, if_false]
        refine (SucceedsIff.bind succeedsIff_monadLift fun _ =>
          .bind succeedsIff_relationExpr fun _ => .bind succeedsIff_pure fun _ =>
            ih.bind_pure).congr ?_
        simp [hshown, and_assoc]
    | none =>
      rw [Table.acceptsEntry_of_column hrelation]
      have hcolumn : SucceedsIff
          (monadLift (columnFields table scope path key value) : Naming (List (String × Sql.Expr)))
          (∃ scope, Succeeds (columnFields table scope path key value)) :=
        succeedsIff_monadLift.congr ⟨fun h => ⟨scope, h⟩, fun ⟨_, h⟩ => succeeds_columnFields h⟩
      refine (SucceedsIff.bind hcolumn fun _ => ih.bind_pure).congr ?_
      simp

/-- The entries of an include tree are accepted exactly if each of them that is shown is one of a
relation. -/
theorem succeedsIff_includedFields {includes : Members} {named : List String} {table : Table}
    {scope path : String} :
    SucceedsIff (context.includedFields includes named table scope path)
      (∀ entry ∈ includes, ¬ (entry.2 = .bool false ∨ named.contains entry.1 = true) →
        ∃ relation, table.relation? entry.1 = some relation ∧
          context.AcceptsRows relation true none (some entry.2) (joinPath path entry.1)) := by
  induction includes with
  | nil =>
    simp only [includedFields]
    exact succeedsIff_pure.congr (by simp)
  | cons entry rest ih =>
    obtain ⟨name, entry⟩ := entry
    simp only [includedFields, List.forall_mem_cons]
    by_cases hhidden : entry = .bool false ∨ named.contains name = true
    · simp only [hhidden, if_true]
      refine (SucceedsIff.bind succeedsIff_pure fun _ => ih.bind_pure).congr ?_
      simp
    · simp only [hhidden, if_false]
      cases hrelation : table.relation? name with
      | some relation =>
        refine (SucceedsIff.bind succeedsIff_relationExpr fun _ => .bind succeedsIff_pure fun _ =>
          ih.bind_pure).congr ?_
        simp
      | none =>
        refine (SucceedsIff.bind succeedsIff_throw fun _ => ih.bind_pure).congr ?_
        simp

/-- Check that an include tree names relations. -/
theorem succeeds_checkIncludes {table : Table} {path : String} {include? : Option Json} :
    Succeeds (checkIncludes table path include?) ↔
      (∀ tree ∈ include?, tree.isObject = true) ∧
        ∀ entry ∈ Json.membersOf include?, (table.relation? entry.1).isSome = true := by
  match include? with
  | none => simp [checkIncludes, Json.membersOf]
  | some (.object members) =>
    rw [checkIncludes, succeeds_forM]
    refine Iff.trans ?_ (and_iff_right ?_).symm
    · refine forall₂_congr fun entry _ => ?_
      split
      · rename_i hrelation
        exact iff_of_true succeeds_ok hrelation
      · rename_i hrelation
        exact iff_of_false not_succeeds_error hrelation
    · rintro _ ⟨⟩
      rfl
  | some .null | some (.bool _) | some (.number _) | some (.string _) | some (.array _) =>
    simp [checkIncludes, Json.isObject]

/-- What it takes for two trees to be accepted over a table. -/
structure AcceptsTrees (context : ProjectionContext) (select? include? : Option Json)
    (table : Table) (path : String) : Prop where
  selectTree : ∀ tree ∈ select?, tree.isObject = true
  includeTree : ∀ tree ∈ include?, tree.isObject = true
  relations : ∀ entry ∈ Json.membersOf include?, (table.relation? entry.1).isSome = true
  entries : ∀ entry ∈ Json.membersOf select?, table.AcceptsEntry path entry
  requests : ∀ name relation, table.relation? name = some relation →
    ∀ request ∈ request? select? include? name,
      context.AcceptsRows relation true request.1 request.2 (joinPath path name)

section

variable {select? include? : Option Json} {table : Table} {path : String}

/-- Two trees are accepted exactly if the checks of the trees, of their entries and of what is asked
for in the entries succeed. -/
theorem succeedsIff_entries {scope : String} :
    SucceedsIff (context.fields select? include? table scope path)
      (Succeeds (checkIncludes table path include?) ∧ (∀ tree ∈ select?, tree.isObject = true) ∧
        (∀ entry ∈ Json.membersOf select?, table.AcceptsEntry path entry ∧
          ∀ relation, table.relation? entry.1 = some relation → entry.2 ≠ .bool false →
            context.AcceptsRows relation true (selectTree? entry.2)
              (includedAs? (Json.membersOf include?) entry.1) (joinPath path entry.1)) ∧
        ∀ entry ∈ Json.membersOf include?, ¬ (entry.2 = .bool false ∨
            (Json.membersOf select?).keys.contains entry.1 = true) →
          ∃ relation, table.relation? entry.1 = some relation ∧
            context.AcceptsRows relation true none (some entry.2) (joinPath path entry.1)) := by
  match select? with
  | none =>
    simp only [fields]
    refine (SucceedsIff.bind succeedsIff_monadLift fun _ =>
      succeedsIff_includedFields.bind_pure).congr ?_
    simp [Json.membersOf, Members.keys]
  | some (.object members) =>
    simp only [fields]
    refine (SucceedsIff.bind succeedsIff_monadLift fun _ =>
      .bind succeedsIff_selectedFields fun _ => succeedsIff_includedFields.bind_pure).congr ?_
    simp [Json.membersOf, Json.isObject]
  | some .null | some (.bool _) | some (.number _) | some (.string _) | some (.array _) =>
    simp only [fields]
    refine (SucceedsIff.bind succeedsIff_monadLift fun _ => succeedsIff_throw).congr ?_
    simp [Json.isObject]

/-- Two trees without repeated names are accepted exactly if their forms are, and what they ask for
of each relation. -/
theorem accepts_iff (distinctSelect : (Json.membersOf select?).keys.Nodup)
    (distinctInclude : (Json.membersOf include?).keys.Nodup) :
    context.Accepts select? include? table path ↔
      context.AcceptsTrees select? include? table path := by
  have hfields : SucceedsIff (context.fields select? include? table "" path)
      (context.Accepts select? include? table path) := succeedsIff_fields
  rw [hfields.iff succeedsIff_entries .start, succeeds_checkIncludes]
  constructor
  · rintro ⟨⟨hincludeTree, hrelations⟩, hselectTree, hselected, hincluded⟩
    refine ⟨hselectTree, hincludeTree, hrelations, fun entry hentry => (hselected entry hentry).1,
      fun name relation hrelation request hrequest => ?_⟩
    rcases (request?_eq_some_iff distinctSelect distinctInclude).1 hrequest with
      ⟨value, hvalue, hshown, rfl⟩ | ⟨hnew, entry, hentry, hshown, rfl⟩
    · exact (hselected _ hvalue).2 relation hrelation hshown
    · have hshown : ¬ (entry = .bool false ∨
          (Json.membersOf select?).keys.contains name = true) :=
        not_or.2 ⟨hshown, by rw [hnew]; exact Bool.false_ne_true⟩
      obtain ⟨found, hfound, haccepted⟩ := hincluded _ hentry hshown
      rw [hrelation, Option.some_inj] at hfound
      rwa [hfound]
  · rintro ⟨hselectTree, hincludeTree, hrelations, hentries, hrequests⟩
    refine ⟨⟨hincludeTree, hrelations⟩, hselectTree, fun entry hentry => ⟨hentries entry hentry,
      fun relation hrelation hshown => ?_⟩, fun entry hentry hshown => ?_⟩
    · exact hrequests entry.1 relation hrelation _
        ((request?_eq_some_iff distinctSelect distinctInclude).2 (.inl ⟨entry.2, hentry, hshown, rfl⟩))
    · obtain ⟨relation, hrelation⟩ := Option.isSome_iff_exists.1 (hrelations entry hentry)
      rw [not_or, Bool.not_eq_true] at hshown
      exact ⟨relation, hrelation, hrequests entry.1 relation hrelation _
        ((request?_eq_some_iff distinctSelect distinctInclude).2
          (.inr ⟨hshown.2, entry.2, hentry, hshown.1, rfl⟩))⟩

/-- The output columns of two trees are compiled exactly if the trees are accepted over the table of
the name. -/
theorem succeedsIff_projections {name scope : String} :
    SucceedsIff (context.projections select? include? name scope)
      (∃ table, context.repository.table? name = some table ∧
        context.Accepts select? include? table name) := by
  simp only [projections]
  exact succeedsIff_table fun _ => succeedsIff_fields.bind_pure

end

end ProjectionContext

/-! ## What is output -/

/-- The names that the entries of a select tree show. -/
def shownNames (members : Members) : List String := (members.filter (·.2 != .bool false)).map (·.1)

/-- The names that the entries of an include tree add to those that a select tree has. -/
def addedNames (includes : Members) (named : List String) : List String :=
  shownNames (includes.filter fun entry => !named.contains entry.1)

/-- The names that a part of two trees outputs. -/
def ProjectionTask.names (table : Table) : ProjectionTask → List String
  | .fields select? include? =>
    (if select?.isNone then table.schema.fieldNames else []) ++
      shownNames (Json.membersOf select?) ++
      addedNames (Json.membersOf include?) (Json.membersOf select?).keys
  | .selected _ members => shownNames members
  | .included includes named => addedNames includes named
  | .relation key _ _ _ => [key]

theorem shownNames_cons (name : String) (value : Json) (rest : Members) :
    shownNames ((name, value) :: rest) =
      (if value = .bool false then [] else [name]) ++ shownNames rest := by
  by_cases hshown : value = .bool false <;> simp [shownNames, hshown]

theorem addedNames_cons (name : String) (entry : Json) (rest : Members) (named : List String) :
    addedNames ((name, entry) :: rest) named =
      (if entry = .bool false ∨ named.contains name = true then [] else [name]) ++
        addedNames rest named := by
  unfold addedNames
  by_cases hnamed : named.contains name = true
  · rw [List.filter_cons_of_neg (by simpa using hnamed), if_pos (.inr hnamed), List.nil_append]
  · rw [List.filter_cons_of_pos (by simpa using hnamed), shownNames_cons]
    simp only [hnamed, Bool.false_eq_true, or_false]

namespace ProjectionContext

variable {context : ProjectionContext} {table : Table}

/-- A part of two trees has its expressions under the names that it outputs. -/
theorem Derives.names_eq {scope : String} {task : ProjectionTask}
    {fields : List (String × Sql.Expr)} {a b : Aliases}
    (h : context.Derives table scope task a fields b) :
    fields.map (·.1) = task.names table := by
  induction h with
  | @all table _ include? _ _ _ _ ih =>
    rw [List.map_append, ih]
    simp [ProjectionTask.names, allColumnFields, Function.comp_def, Json.membersOf, Members.keys,
      shownNames]
  | tree _ _ ihEntries ihOthers =>
    rw [List.map_append, ihEntries, ihOthers]
    simp [ProjectionTask.names, Json.membersOf]
  | nothingSelected | nothingIncluded | relation => rfl
  | hidden _ _ ih =>
    rw [ih, ProjectionTask.names, ProjectionTask.names, shownNames_cons, if_pos rfl, List.nil_append]
  | selectedRelation _ hshown _ _ ihHead ihTail =>
    rw [List.map_append, ihHead, ihTail, ProjectionTask.names, ProjectionTask.names,
      ProjectionTask.names, shownNames_cons, if_neg hshown]
  | selectedColumn _ head _ ih =>
    rw [List.map_append, columnFields_names head, ih, ProjectionTask.names, ProjectionTask.names,
      shownNames_cons]
  | skipped hhidden _ ih =>
    rw [ih, ProjectionTask.names, ProjectionTask.names, addedNames_cons, if_pos hhidden,
      List.nil_append]
  | includedRelation hshown _ _ _ ihHead ihTail =>
    rw [List.map_append, ihHead, ihTail, ProjectionTask.names, ProjectionTask.names,
      ProjectionTask.names, addedNames_cons, if_neg hshown]

/-- Two trees without repeated names output the columns if there is no select tree, and the names
under which they ask for something. -/
theorem mem_names_fields {select? include? : Option Json}
    (distinctSelect : (Json.membersOf select?).keys.Nodup)
    (distinctInclude : (Json.membersOf include?).keys.Nodup) {name : String} :
    name ∈ (ProjectionTask.fields select? include?).names table ↔
      (select? = none ∧ name ∈ table.schema.fieldNames) ∨
        (request? select? include? name).isSome = true := by
  have hcolumns : name ∈ (if select?.isNone then table.schema.fieldNames else []) ↔
      select? = none ∧ name ∈ table.schema.fieldNames := by
    cases select? <;> simp
  have hselected : name ∈ shownNames (Json.membersOf select?) ↔
      ∃ value, (name, value) ∈ Json.membersOf select? ∧ value ≠ .bool false := by
    simp [shownNames]
  have hincluded : name ∈ addedNames (Json.membersOf include?) (Json.membersOf select?).keys ↔
      (Json.membersOf select?).keys.contains name = false ∧
        ∃ entry, (name, entry) ∈ Json.membersOf include? ∧ entry ≠ .bool false := by
    simp only [addedNames, shownNames, List.mem_map, List.mem_filter, Prod.exists, bne_iff_ne,
      Bool.not_eq_true']
    constructor
    · rintro ⟨_, entry, ⟨⟨hmem, hnew⟩, hshown⟩, rfl⟩
      exact ⟨hnew, entry, hmem, hshown⟩
    · rintro ⟨hnew, entry, hmem, hshown⟩
      exact ⟨name, entry, ⟨⟨hmem, hnew⟩, hshown⟩, rfl⟩
  rw [ProjectionTask.names, List.mem_append, List.mem_append, hcolumns, hselected, hincluded,
    or_assoc]
  refine or_congr_right ?_
  simp only [Option.isSome_iff_exists, request?_eq_some_iff distinctSelect distinctInclude]
  constructor
  · rintro (⟨value, hmem, hshown⟩ | ⟨hnew, entry, hmem, hshown⟩)
    · exact ⟨_, .inl ⟨value, hmem, hshown, rfl⟩⟩
    · exact ⟨_, .inr ⟨hnew, entry, hmem, hshown, rfl⟩⟩
  · rintro ⟨_, ⟨value, hmem, hshown, -⟩ | ⟨hnew, entry, hmem, hshown, -⟩⟩
    · exact .inl ⟨value, hmem, hshown⟩
    · exact .inr ⟨hnew, entry, hmem, hshown⟩

end ProjectionContext

end RelationalQuery
