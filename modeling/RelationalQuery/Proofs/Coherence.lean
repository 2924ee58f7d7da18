import RelationalQuery.Proofs.Computation
import RelationalQuery.Relation.Repository

/-!
# Coherence of accepted repositories

Declared tables are checked against each other, so in a repository that is accepted every relation
leads to a table of the repository, and joins a column of the one to a column of the other.

Main definitions:

- `Relation.Coherent` is what holds of a relation of a table; `Repository.Coherent` asks it of all.
- `Repository.Accepted` says that a repository is the result of checked declarations.
- `Library.repository` is a small accepted repository with relations in both directions.

Main results:

- `Repository.table?_insert`: what each name stands for when a table is added.
- `Repository.Accepted.coherent`: accepted repositories are coherent.
-/

namespace RelationalQuery

/-! ## Coherence -/

/-- A relation of a table leads to a table of the repository, and joins a column of that table to a
column of its own table. -/
structure Relation.Coherent (repository : Repository) (owner : Table) (relation : Relation) :
    Prop where
  related : ∃ related, repository.table? relation.relatedTable = some related ∧
    related.schema = relation.relatedSchema
  source : relation.relatedSchema.contains relation.sourceColumn = true
  target : owner.schema.contains relation.targetColumn = true
  notColumn : owner.schema.contains relation.name = false

/-- All relations of all tables are coherent. -/
def Repository.Coherent (repository : Repository) : Prop :=
  ∀ name table, repository.table? name = some table →
    ∀ relation ∈ table.relations, relation.Coherent repository table

/-- The repository is the result of checked declarations. -/
def Repository.Accepted (repository : Repository) : Prop :=
  ∃ definitions, Repository.ofDefinitions definitions = .ok repository

/-! ## Lookups -/

namespace Repository

/-- A lookup that may fail gives the table that is found. -/
theorem table_eq_ok_iff {repository : Repository} {name : String} {table : Table} :
    repository.table name = .ok table ↔ repository.table? name = some table := by
  unfold Repository.table
  cases repository.table? name with
  | none => simp
  | some other => simp

theorem name_of_table? {repository : Repository} {name : String} {table : Table}
    (h : repository.table? name = some table) : table.name = name := by
  simpa using List.find?_some h

theorem table?_self {repository : Repository} {name : String} {table : Table}
    (h : repository.table? name = some table) : repository.table? table.name = some table := by
  rw [name_of_table? h]
  exact h

/-- A table that is added stands for its name, and every other name stands for what it did. -/
theorem table?_insert (repository : Repository) (table : Table) (name : String) :
    (repository.insert table).table? name =
      if table.name = name then some table else repository.table? name := by
  obtain ⟨tables⟩ := repository
  unfold insert table?
  simp only
  induction tables with
  | nil => by_cases h : table.name = name <;> simp [insertTable, h]
  | cons other rest ih =>
    unfold insertTable
    split
    · by_cases h : table.name = name <;> simp [h]
    · split
      · rename_i hsame
        by_cases h : table.name = name <;> simp [h, ← hsame]
      · rename_i hother
        rw [List.find?_cons, List.find?_cons, ih]
        by_cases h : table.name = name
        · have hne : (other.name == name) = false := by
            apply beq_false_of_ne
            intro heq
            exact hother (h.trans heq.symm)
          rw [if_pos h, if_pos h, hne]
        · simp [h]

end Repository

/-- A coherent relation has the schema of the table it leads to. -/
theorem Relation.Coherent.schema_of_table? {repository : Repository} {owner related : Table}
    {relation : Relation} (h : relation.Coherent repository owner)
    (known : repository.table? relation.relatedTable = some related) :
    related.schema = relation.relatedSchema := by
  obtain ⟨other, hother, hschema⟩ := h.related
  rw [known, Option.some.injEq] at hother
  rw [hother]
  exact hschema

/-- The source column of a coherent relation is one of its related table. -/
theorem Relation.Coherent.source_of_table? {repository : Repository} {owner related : Table}
    {relation : Relation} (h : relation.Coherent repository owner)
    (known : repository.table? relation.relatedTable = some related) :
    related.schema.contains relation.sourceColumn = true := by
  rw [h.schema_of_table? known]
  exact h.source

theorem Table.mem_of_relation? {table : Table} {name : String} {relation : Relation}
    (h : table.relation? name = some relation) : relation ∈ table.relations :=
  List.mem_of_find?_eq_some h

theorem Table.name_of_relation? {table : Table} {name : String} {relation : Relation}
    (h : table.relation? name = some relation) : relation.name = name := by
  simpa using List.find?_some h

/-- A schema contains the names of its fields. -/
theorem ObjectSchema.contains_iff {schema : ObjectSchema} {name : String} :
    schema.contains name = true ↔ name ∈ schema.fieldNames :=
  Entries.lookup_isSome_iff

/-- A key that is looked up for a path is declared. -/
theorem ObjectSchema.get?_of_field {schema : ObjectSchema} {name path : String} {field : Field}
    (h : schema.field name path = .ok field) : schema.get? name = some field := by
  unfold ObjectSchema.field at h
  cases hget : schema.get? name with
  | none => simp [hget] at h
  | some other => simpa [hget] using h

theorem ObjectSchema.contains_of_get? {schema : ObjectSchema} {name : String} {field : Field}
    (h : schema.get? name = some field) : schema.contains name = true := by
  rw [ObjectSchema.contains, h]
  rfl

/-- A field that a schema gives for a name is one that it contains. -/
theorem ObjectSchema.contains_of_field {schema : ObjectSchema} {name path : String} {field : Field}
    (h : schema.field name path = .ok field) : schema.contains name = true :=
  contains_of_get? (get?_of_field h)

/-! ## Checked declarations -/

namespace TableDefinition

variable {definitions : List TableDefinition} {definition : TableDefinition}

/-- A definition at the end replaces what came before under its name. -/
theorem last?_append (front : List TableDefinition) (definition : TableDefinition) (name : String) :
    last? (front ++ [definition]) name =
      if definition.name = name then some definition else last? front name := by
  unfold last?
  by_cases h : definition.name = name <;> simp [h]

/-- What is checked of a relation when it is resolved. -/
theorem resolve_eq_ok {declared : RelationDefinition} {relation : Relation}
    (h : definition.resolve definitions declared = .ok relation) :
    (∃ related, last? definitions relation.relatedTable = some related ∧
      related.schema = relation.relatedSchema) ∧
    relation.relatedSchema.contains relation.sourceColumn = true ∧
    definition.schema.contains relation.targetColumn = true ∧
    definition.schema.contains relation.name = false := by
  unfold resolve at h
  simp only at h
  split at h
  · rename_i related hrelated
    split at h
    · rename_i shape hshape
      cases hname : definition.schema.contains declared.name with
      | true => simp [hname] at h
      | false =>
        cases htarget : definition.schema.contains declared.targetColumn with
        | false => simp [hname, htarget] at h
        | true =>
          cases hsource : related.schema.contains declared.sourceColumn with
          | false => simp [hname, htarget, hsource] at h
          | true =>
            simp only [hname, htarget, hsource, Bool.not_true, Bool.false_eq_true, if_false,
              pure_eq_ok_iff] at h
            rw [← h]
            exact ⟨⟨related, hrelated, rfl⟩, hsource, htarget, hname⟩
    · simp at h
  · simp at h

/-- Every resolved relation is one that was there or the result of a check. -/
theorem mem_resolveAll {declared : List RelationDefinition} {resolved relations : List Relation}
    (h : definition.resolveAll definitions declared resolved = .ok relations)
    {relation : Relation} (hmem : relation ∈ relations) :
    relation ∈ resolved ∨
      ∃ entry ∈ declared, definition.resolve definitions entry = .ok relation := by
  induction declared generalizing resolved with
  | nil =>
    rw [resolveAll, Except.ok.injEq] at h
    left
    rw [h]
    exact hmem
  | cons entry rest ih =>
    simp only [resolveAll, bind_eq_ok_iff] at h
    obtain ⟨first, hfirst, h⟩ := h
    split at h
    · simp at h
    · rcases ih h with hmem | ⟨other, hother, hresolve⟩
      · rcases List.mem_append.1 hmem with hmem | hmem
        · left
          exact hmem
        · right
          rw [List.mem_singleton.1 hmem]
          exact ⟨entry, by simp, hfirst⟩
      · right
        exact ⟨other, by simp [hother], hresolve⟩

/-- A checked table is named and described as it was declared, and its relations are checked. -/
theorem toTable_eq_ok {table : Table} (h : definition.toTable definitions = .ok table) :
    table.name = definition.name ∧ table.schema = definition.schema ∧
      ∀ relation ∈ table.relations,
        ∃ declared, definition.resolve definitions declared = .ok relation := by
  unfold toTable at h
  split at h
  · simp at h
  · simp only [bind_eq_ok_iff, pure_eq_ok_iff] at h
    obtain ⟨key, hkey, relations, hrelations, rfl⟩ := h
    refine ⟨rfl, rfl, ?_⟩
    intro relation hrelation
    rcases mem_resolveAll hrelations hrelation with hmem | ⟨declared, -, hresolve⟩
    · simp at hmem
    · exact ⟨declared, hresolve⟩

end TableDefinition

/-! ## Accepted repositories -/

namespace Repository

open TableDefinition (last?)

/-- Every name of a repository stands for the last of some declarations with this name. -/
def Resolves (definitions declared : List TableDefinition) (repository : Repository) : Prop :=
  ∀ name, (repository.table? name = none ∧ last? declared name = none) ∨
    ∃ definition table, last? declared name = some definition ∧
      definition.toTable definitions = .ok table ∧ repository.table? name = some table

/-- A declaration that is checked and added replaces what its name stood for. -/
theorem Resolves.insert {definitions declared : List TableDefinition} {repository : Repository}
    (h : repository.Resolves definitions declared) {definition : TableDefinition} {table : Table}
    (htable : definition.toTable definitions = .ok table) :
    (repository.insert table).Resolves definitions (declared ++ [definition]) := by
  intro name
  rw [table?_insert, TableDefinition.last?_append, (TableDefinition.toTable_eq_ok htable).1]
  by_cases hname : definition.name = name
  · right
    exact ⟨definition, table, by simp [hname], htable, by simp [hname]⟩
  · simpa [hname] using h name

/-- Each further definition keeps the lookups those of the last definitions. -/
theorem resolves_of_foldlM {definitions declared rest : List TableDefinition}
    {start repository : Repository} (hstart : start.Resolves definitions declared)
    (h : rest.foldlM (fun repository definition =>
      return Repository.insert repository (← definition.toTable definitions)) start =
        .ok repository) :
    repository.Resolves definitions (declared ++ rest) := by
  induction rest generalizing start declared with
  | nil =>
    rw [List.foldlM_nil, pure_eq_ok_iff] at h
    rw [← h, List.append_nil]
    exact hstart
  | cons definition rest ih =>
    rw [List.foldlM_cons] at h
    simp only [bind_eq_ok_iff, pure_eq_ok_iff] at h
    obtain ⟨_, ⟨table, htable, rfl⟩, h⟩ := h
    have hnext := ih (hstart.insert htable) h
    rwa [List.append_assoc, List.singleton_append] at hnext

/-- A repository resolves each name to the last definition of it. -/
theorem resolves_of_ofDefinitions {definitions : List TableDefinition} {repository : Repository}
    (h : ofDefinitions definitions = .ok repository) :
    repository.Resolves definitions definitions := by
  have hstart : Resolves definitions [] ⟨[]⟩ := by
    intro name
    left
    exact ⟨rfl, rfl⟩
  exact resolves_of_foldlM hstart h

/-- In an accepted repository every relation is coherent. -/
theorem Accepted.coherent {repository : Repository} (h : repository.Accepted) :
    repository.Coherent := by
  obtain ⟨definitions, h⟩ := h
  have hresolves := resolves_of_ofDefinitions h
  intro name table htable relation hrelation
  rcases hresolves name with ⟨hnone, -⟩ | ⟨definition, found, -, hfound, htable'⟩
  · simp [hnone] at htable
  · obtain rfl : found = table := by simpa [htable'] using htable
    obtain ⟨-, hschema, hrelations⟩ := TableDefinition.toTable_eq_ok hfound
    obtain ⟨declared, hresolve⟩ := hrelations relation hrelation
    obtain ⟨⟨other, hother, hotherSchema⟩, hsource, htarget, hname⟩ :=
      TableDefinition.resolve_eq_ok hresolve
    rcases hresolves relation.relatedTable with ⟨-, hnone⟩ | ⟨last, related, hlast, hrel, hget⟩
    · simp [hother] at hnone
    · obtain rfl : other = last := by simpa [hother] using hlast
      refine ⟨⟨related, hget, ?_⟩, hsource, ?_, ?_⟩
      · rw [(TableDefinition.toTable_eq_ok hrel).2.1, hotherSchema]
      · rw [hschema]
        exact htarget
      · rw [hschema]
        exact hname

/-- A column of an accepted table has the name of no relation. -/
theorem Accepted.relation?_eq_none {repository : Repository} (accepted : repository.Accepted)
    {table : Table} (known : repository.table? table.name = some table) {column : String}
    (declared : table.schema.contains column = true) : table.relation? column = none := by
  cases hrelation : table.relation? column with
  | none => rfl
  | some relation =>
    have hcoherent := accepted.coherent _ _ known _ (Table.mem_of_relation? hrelation)
    have hname := hcoherent.notColumn
    rw [Table.name_of_relation? hrelation, declared] at hname
    simp at hname

end Repository

/-! ## A library -/

namespace Library

/-- An integer column. -/
def integer : Field := .ofKind (.number (some .integer))

/-- The columns of authors. -/
def authorSchema : ObjectSchema := ⟨[("id", integer), ("name", .ofKind (.string none))]⟩

/-- The columns of books. -/
def bookSchema : ObjectSchema := ⟨[("author", integer), ("id", integer), ("year", integer)]⟩

/-- Authors with their books. -/
def author : Table :=
  ⟨"author", authorSchema, some "id",
    [⟨"books", "book", bookSchema, "author", "id", .pluralInverse⟩]⟩

/-- Books with their writers. -/
def book : Table :=
  ⟨"book", bookSchema, some "id",
    [⟨"writer", "author", authorSchema, "id", "author", .foreignOwned⟩]⟩

/-- Authors and books. -/
def repository : Repository := ⟨[author, book]⟩

/-- The relation of authors to their books. -/
def books : Relation := ⟨"books", "book", bookSchema, "author", "id", .pluralInverse⟩

/-- The relation of books to their writers. -/
def writer : Relation := ⟨"writer", "author", authorSchema, "id", "author", .foreignOwned⟩

/-- The declarations of authors and books. -/
def definitions : List TableDefinition :=
  [⟨"author", authorSchema, [⟨"author_id", ["id"], .primary⟩],
      [⟨"books", "book", "author", .secondary, "id", .primary⟩]⟩,
    ⟨"book", bookSchema, [⟨"book_id", ["id"], .primary⟩],
      [⟨"writer", "author", "id", .primary, "author", .secondary⟩]⟩]

theorem accepted : repository.Accepted := ⟨definitions, rfl⟩

theorem table?_cases {name : String} {table : Table} (h : repository.table? name = some table) :
    name = "author" ∧ table = author ∨ name = "book" ∧ table = book := by
  have hname := Repository.name_of_table? h
  have hmem : table ∈ [author, book] := List.mem_of_find?_eq_some h
  simp only [List.mem_cons, List.not_mem_nil, or_false] at hmem
  rcases hmem with rfl | rfl
  · left
    exact ⟨hname.symm, rfl⟩
  · right
    exact ⟨hname.symm, rfl⟩

end Library

end RelationalQuery
