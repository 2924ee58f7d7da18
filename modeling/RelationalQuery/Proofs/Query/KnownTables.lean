import RelationalQuery.Proofs.NamedOrder
import RelationalQuery.Proofs.Query.Failure

/-!
# Repositories of resolved tables

Of declared tables with one name the last one counts, both for what the repository holds and for
what relations are resolved against.  So every table of an accepted repository is described as its
last declaration says, its relations lead to tables of the repository that are described as the
relations expect, and no query on a table that is known ever misses another one.

Main definitions:

- `Repository.Ordered` says that tables stand in the order of their names, which are distinct.
- `RelationDefinition.Describes` and `TableDefinition.Describes` say how declarations are resolved.

Main results:

- `Repository.ordered_of_ofDefinitions`: the tables of an accepted repository are ordered.
- `TableDefinition.describes_of_toTable`: a declaration describes the table that it is resolved to.
- `Repository.ofDefinitions_coherent`: an accepted repository is coherent and complete.
-/

namespace RelationalQuery

/-! ## The order of tables -/

/-- The tables are in the order of their names, which are distinct. -/
def Repository.Ordered (repository : Repository) : Prop :=
  repository.tables.Pairwise fun first second => first.name < second.name

namespace Repository

/-- Tables are kept in the order of their names. -/
theorem insertTable_eq_insertNamed (tables : List Table) (table : Table) :
    insertTable tables table = insertNamed (·.name) tables table := by
  induction tables with
  | nil => rfl
  | cons other rest ih => rw [insertTable, insertNamed, ih]

/-- A further table keeps the order. -/
theorem Ordered.insert {repository : Repository} (ordered : repository.Ordered) (table : Table) :
    (repository.insert table).Ordered := by
  rw [Ordered, Repository.insert, insertTable_eq_insertNamed]
  exact pairwise_insertNamed table ordered

/-- In an ordered repository every table is found under its name. -/
theorem Ordered.table?_of_mem {repository : Repository} (ordered : repository.Ordered)
    {table : Table} (mem : table ∈ repository.tables) :
    repository.table? table.name = some table := by
  obtain ⟨before, after, hsplit⟩ := List.append_of_mem mem
  rw [Ordered, hsplit, List.pairwise_append] at ordered
  have hbefore : before.find? (·.name == table.name) = none := by
    refine List.find?_eq_none.2 fun other hother => ?_
    simpa using (ordered.2.2 other hother table List.mem_cons_self).ne
  rw [table?, hsplit, List.find?_append, hbefore, Option.none_or]
  simp

/-- The tables of an accepted repository are in the order of their names. -/
theorem ordered_of_ofDefinitions {definitions : List TableDefinition} {repository : Repository}
    (accepted : ofDefinitions definitions = .ok repository) : repository.Ordered := by
  have hfold : ∀ {declared : List TableDefinition} {start : Repository}, start.Ordered →
      declared.foldlM (fun repository definition =>
        return Repository.insert repository (← definition.toTable definitions)) start =
          .ok repository → repository.Ordered := by
    intro declared
    induction declared with
    | nil =>
      intro start hstart h
      rw [List.foldlM_nil, pure_eq_ok_iff] at h
      exact h ▸ hstart
    | cons definition rest ih =>
      intro start hstart h
      rw [List.foldlM_cons] at h
      simp only [bind_eq_ok_iff, pure_eq_ok_iff] at h
      obtain ⟨_, ⟨table, -, rfl⟩, h⟩ := h
      exact ih (hstart.insert table) h
  exact hfold List.Pairwise.nil accepted

end Repository

/-! ## Declarations and what they are resolved to -/

/-- A relation is resolved from a declared one: it joins the declared columns, and has the shape
that the kinds of the indexes on them tell. -/
structure RelationDefinition.Describes (declared : RelationDefinition) (relation : Relation) :
    Prop where
  name : relation.name = declared.name
  relatedTable : relation.relatedTable = declared.relatedTable
  source : relation.sourceColumn = declared.sourceColumn
  target : relation.targetColumn = declared.targetColumn
  shape : RelationShape.classify? declared.targetIndexKind declared.sourceIndexKind =
    some relation.shape

/-- A table is resolved from a declared one: it has the declared schema and the declared relations
in their order, each under a name of its own. -/
structure TableDefinition.Describes (definition : TableDefinition) (table : Table) : Prop where
  name : table.name = definition.name
  schema : table.schema = definition.schema
  relations : List.Forall₂ RelationDefinition.Describes definition.relations table.relations
  distinct : (table.relations.map (·.name)).Nodup

namespace TableDefinition

variable {definitions : List TableDefinition} {definition : TableDefinition}

/-- A relation that is resolved is as it is declared. -/
theorem describes_of_resolve {declared : RelationDefinition} {relation : Relation}
    (h : definition.resolve definitions declared = .ok relation) :
    declared.Describes relation := by
  unfold resolve at h
  simp only at h
  split at h
  · split at h
    · rename_i shape hshape
      split at h
      · simp at h
      · split at h
        · simp at h
        · split at h
          · simp at h
          · rw [pure_eq_ok_iff] at h
            rw [← h]
            exact ⟨rfl, rfl, rfl, rfl, hshape⟩
    · simp at h
  · simp at h

/-- Declared relations are resolved one by one behind those that are there, and no name is
repeated. -/
theorem describes_of_resolveAll {declared : List RelationDefinition}
    {resolved relations : List Relation}
    (h : definition.resolveAll definitions declared resolved = .ok relations)
    (distinct : (resolved.map (·.name)).Nodup) :
    (∃ added, relations = resolved ++ added ∧
      List.Forall₂ RelationDefinition.Describes declared added) ∧
      (relations.map (·.name)).Nodup := by
  induction declared generalizing resolved with
  | nil =>
    rw [resolveAll, Except.ok.injEq] at h
    rw [← h]
    exact ⟨⟨[], (List.append_nil _).symm, .nil⟩, distinct⟩
  | cons entry rest ih =>
    simp only [resolveAll, bind_eq_ok_iff] at h
    obtain ⟨first, hfirst, h⟩ := h
    split at h
    · simp at h
    · rename_i hfresh
      have hnames : ((resolved ++ [first]).map (·.name)).Nodup := by
        rw [List.map_append, List.map_singleton]
        refine List.nodup_append.2 ⟨distinct, List.nodup_singleton _, ?_⟩
        rintro name hname _ hmem rfl
        rw [List.mem_singleton] at hmem
        obtain ⟨other, hother, hsame⟩ := List.mem_map.1 hname
        refine hfresh (List.any_eq_true.2 ⟨other, hother, ?_⟩)
        rw [hsame, hmem]
        exact beq_self_eq_true _
      obtain ⟨⟨added, hadded, hdescribed⟩, hdistinct⟩ := ih h hnames
      refine ⟨⟨first :: added, ?_, .cons (describes_of_resolve hfirst) hdescribed⟩, hdistinct⟩
      rw [hadded, List.append_assoc, List.singleton_append]

/-- A declaration describes the table that it is resolved to. -/
theorem describes_of_toTable {table : Table} (h : definition.toTable definitions = .ok table) :
    definition.Describes table := by
  unfold toTable at h
  split at h
  · simp at h
  · simp only [bind_eq_ok_iff, pure_eq_ok_iff] at h
    obtain ⟨key, -, relations, hrelations, rfl⟩ := h
    obtain ⟨⟨added, hadded, hdescribed⟩, hdistinct⟩ :=
      describes_of_resolveAll hrelations List.nodup_nil
    rw [List.nil_append] at hadded
    exact ⟨rfl, rfl, hadded ▸ hdescribed, hdistinct⟩

end TableDefinition

/-! ## Accepted repositories -/

namespace Repository

variable {definitions : List TableDefinition} {repository : Repository}

/-- Every name of an accepted repository stands for what its last declaration describes. -/
theorem describes_of_table? (accepted : ofDefinitions definitions = .ok repository) {name : String}
    {table : Table} (known : repository.table? name = some table) :
    ∃ definition, TableDefinition.last? definitions name = some definition ∧
      definition.Describes table := by
  rcases resolves_of_ofDefinitions accepted name with ⟨hnone, -⟩ |
    ⟨definition, found, hlast, hfound, htable⟩
  · simp [hnone] at known
  · obtain rfl : found = table := Option.some.inj (htable.symm.trans known)
    exact ⟨definition, hlast, TableDefinition.describes_of_toTable hfound⟩

/-- The names of an accepted repository are the declared ones. -/
theorem isSome_table?_iff (accepted : ofDefinitions definitions = .ok repository) (name : String) :
    (repository.table? name).isSome = true ↔ ∃ definition ∈ definitions, definition.name = name := by
  have hdeclared : (TableDefinition.last? definitions name).isSome = true ↔
      ∃ definition ∈ definitions, definition.name = name := by
    simp [TableDefinition.last?]
  rw [← hdeclared]
  rcases resolves_of_ofDefinitions accepted name with ⟨htable, hlast⟩ |
    ⟨definition, found, hlast, -, htable⟩
  · rw [htable, hlast]
    rfl
  · rw [htable, hlast]
    rfl

/-- If declared tables are accepted, then each of their names stands for one table, which is
described as the last declaration with this name says.  Its relations keep their order, have shapes
that the declared index kinds tell, are named apart from each other and from the columns, and lead
to tables of the repository with the columns that are joined.  No query on a table of the repository
that is compiled with the validator of schemas reports an unknown table. -/
theorem ofDefinitions_coherent (accepted : ofDefinitions definitions = .ok repository) :
    (∀ name, (repository.table? name).isSome = true ↔
      ∃ definition ∈ definitions, definition.name = name) ∧
    (∀ table ∈ repository.tables, repository.table? table.name = some table ∧
      (∃ definition, TableDefinition.last? definitions table.name = some definition ∧
        definition.Describes table) ∧
      ∀ relation ∈ table.relations, relation.Coherent repository table) ∧
    ∀ config table query start next missing, (repository.table? table).isSome = true →
      outcome (WriteContext.compile ⟨repository, config, Validator.ofSchema⟩ table query) start ≠
        (.error (.unknownTable missing), next) := by
  have hcoherent : repository.Coherent := Accepted.coherent ⟨definitions, accepted⟩
  refine ⟨isSome_table?_iff accepted, ?_, ?_⟩
  · intro table hmem
    have hknown := (ordered_of_ofDefinitions accepted).table?_of_mem hmem
    exact ⟨hknown, describes_of_table? accepted hknown, hcoherent _ _ hknown⟩
  · intro config table query start next missing hknown hfailed
    obtain ⟨info, hinfo⟩ := Option.isSome_iff_exists.1 hknown
    let context : WriteContext := ⟨repository, config, Validator.ofSchema⟩
    have hinput : ¬ context.repository.InputError (.unknownTable missing) :=
      InputError.not_unknownTable hcoherent
    have hfailure : context.Failure (.unknownTable missing) next :=
      WriteContext.failsOnly_compile hinfo start _ next hfailed
    rcases hfailure with herror | ⟨call, -, hrefused⟩
    · exact hinput herror
    · exact hinput (ObjectSchema.errsOnly_validate _ _ hrefused)

end Repository

/-! ## A declaration that is replaced -/

namespace Library

/-- A declaration of books without a year, and then the declarations of authors and books. -/
def replacedDefinitions : List TableDefinition :=
  ⟨"book", ⟨[("author", integer), ("id", integer)]⟩, [⟨"book_id", ["id"], .primary⟩],
    [⟨"next", "book", "id", .unique, "id", .primary⟩]⟩ :: definitions

end Library

namespace Repository

/-- The last declaration of books counts, for the table and for the books of authors. -/
theorem ofDefinitions_coherent_library :
    ofDefinitions Library.replacedDefinitions = .ok Library.repository ∧
    (∀ name, (Library.repository.table? name).isSome = true ↔
      ∃ definition ∈ Library.replacedDefinitions, definition.name = name) ∧
    (∀ table ∈ Library.repository.tables, Library.repository.table? table.name = some table ∧
      (∃ definition,
        TableDefinition.last? Library.replacedDefinitions table.name = some definition ∧
          definition.Describes table) ∧
      ∀ relation ∈ table.relations, relation.Coherent Library.repository table) ∧
    ∀ config table query start next missing, (Library.repository.table? table).isSome = true →
      outcome (WriteContext.compile ⟨Library.repository, config, Validator.ofSchema⟩ table query)
        start ≠ (.error (.unknownTable missing), next) :=
  have haccepted : ofDefinitions Library.replacedDefinitions = .ok Library.repository := rfl
  ⟨haccepted, ofDefinitions_coherent haccepted⟩

end Repository

end RelationalQuery
