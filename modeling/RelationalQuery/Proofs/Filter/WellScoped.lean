import RelationalQuery.Proofs.Filter.Column
import RelationalQuery.Proofs.Filter.Derivation

/-!
# Compiled filters are well scoped

A filter over a table is compiled for a scope that reads the columns of the table.  Its own columns
are qualified by the scope or plain, and the columns of related rows are qualified by aliases that
nothing further out is named by.

Main definitions:

- `Reads` says that a scope gives something to all columns of a table: their values when statements
  are run, and nothing of interest when they are checked.
- `Repository.catalog` is the catalog of the tables, and `Repository.columnsOf` are their columns.

Main results:

- `FilterContext.Derives.wellScoped`: the conditions of a derivation are well scoped.
- `FilterContext.wellScoped_condition`: compiled filters are well scoped.
-/

namespace RelationalQuery

open Sql (Catalog Condition Item Scope Tables)

/-! ## Tables in scope -/

/-- A scope gives something to the columns of a table: to those that a filter over the table names,
and to those that relations are joined to. -/
structure Reads {α : Type} (scope : Scope α) (scope? : Option String) (table : Table)
    (value : String → α) : Prop where
  own : ∀ column, table.schema.contains column = true →
    scope.resolve scope? column = some (value column)
  joined : ∀ column, table.schema.contains column = true →
    scope.resolve (some (scope?.getD table.name)) column = some (value column)

namespace Reads

variable {α : Type} {scope : Scope α} {scope? : Option String} {table : Table}
  {value : String → α}

/-- A single item that provides the columns of a table is read under its name. -/
theorem push (item : Item α)
    (provides : ∀ column, table.schema.contains column = true →
      item.column? column = some (value column)) (scope : Scope α) :
    Reads (scope.push item) (some item.name) table value := by
  have hread : ∀ column, table.schema.contains column = true →
      (scope.push item).resolve (some item.name) column = some (value column) := by
    intro column hcolumn
    exact (scope.resolve_push_self item column).trans (provides column hcolumn)
  exact ⟨hread, hread⟩

/-- Columns are still read for joins inside an item of another name. -/
theorem joined_push (reads : Reads scope scope? table value) (item : Item α)
    (apart : item.name ≠ scope?.getD table.name) {column : String}
    (hcolumn : table.schema.contains column = true) :
    (scope.push item).resolve (some (scope?.getD table.name)) column = some (value column) :=
  (Scope.resolve_push_of_ne apart column).trans (reads.joined column hcolumn)

end Reads

/-- The columns of a schema, each once. -/
def ObjectSchema.columns (schema : ObjectSchema) : List String := schema.fieldNames.eraseDups

/-- The catalog of the tables of a repository. -/
def Repository.catalog (repository : Repository) : Catalog := fun name =>
  (repository.table? name).map (·.schema.columns)

/-- The columns of the tables of a repository; a table that it does not have has none. -/
def Repository.columnsOf (repository : Repository) : Tables := fun name =>
  (repository.catalog name).getD []

/-- A schema has the columns that it declares. -/
theorem ObjectSchema.mem_columns {schema : ObjectSchema} {column : String} :
    column ∈ schema.columns ↔ schema.contains column = true := by
  rw [columns, List.mem_eraseDups, contains_iff]

/-- No column is declared twice. -/
theorem ObjectSchema.nodup_columns (schema : ObjectSchema) : schema.columns.Nodup :=
  Sql.nodup_eraseDups _

namespace Table

/-- The columns of an item for a table are read under its name. -/
theorem reads_push (table : Table) (scope : Scope Unit) (name : String) :
    Reads (scope.push (.ofColumns name table.schema.columns)) (some name) table fun _ => () :=
  Reads.push (.ofColumns name table.schema.columns) (fun _ hcolumn =>
    Item.column?_ofColumns table.schema.nodup_columns (ObjectSchema.mem_columns.2 hcolumn) name) scope

/-- The columns of a statement on a table alone are read with and without its name. -/
theorem reads_plain (table : Table) (scope : Scope Unit) :
    Reads (scope.push (.ofColumns table.name table.schema.columns)) none table fun _ => () := by
  refine ⟨?_, (table.reads_push scope table.name).own⟩
  intro column hcolumn
  exact Scope.resolve_push_none (Item.column?_ofColumns table.schema.nodup_columns
    (ObjectSchema.mem_columns.2 hcolumn) table.name)

end Table

/-- A table that is known is in the catalog with its columns. -/
theorem Repository.catalog_of_table? {repository : Repository} {catalog : Catalog}
    (extension : catalog.Extends repository.catalog) {name : String} {table : Table}
    (known : repository.table? name = some table) : catalog name = some table.schema.columns := by
  apply extension
  rw [Repository.catalog, known]
  rfl

/-- The columns of a table that is known are those of its schema. -/
theorem Repository.columnsOf_table? {repository : Repository} {name : String} {table : Table}
    (known : repository.table? name = some table) :
    repository.columnsOf name = table.schema.columns := by
  rw [columnsOf, catalog, known]
  rfl

/-- So are those of the table that a relation leads to. -/
theorem Relation.Coherent.columnsOf_relatedTable {repository : Repository} {owner : Table}
    {relation : Relation} (h : relation.Coherent repository owner) :
    repository.columnsOf relation.relatedTable = relation.relatedSchema.columns := by
  obtain ⟨related, hrelated, hschema⟩ := h.related
  rw [← hschema]
  exact Repository.columnsOf_table? hrelated

/-! ## Conditions of groups and relations -/

section

variable {catalog : Catalog} {scope : Scope Unit} {conditions : List Condition}

/-- The condition of entries is well scoped if those of all of them are. -/
theorem Sql.Condition.wellScoped_ofEntries
    (h : ∀ condition ∈ conditions, condition.WellScoped catalog scope) :
    (Condition.ofEntries conditions).WellScoped catalog scope := by
  unfold ofEntries
  cases hall : Condition.all conditions with
  | none => exact .and (List.forall_mem_nil _)
  | some condition => exact Condition.wellScoped_all h condition hall

/-- So is the condition of a group. -/
theorem Sql.Condition.wellScoped_ofGroup
    (h : ∀ condition ∈ conditions, condition.WellScoped catalog scope) (isDisjunction : Bool) :
    ∀ condition ∈ Condition.ofGroup isDisjunction conditions,
      condition.WellScoped catalog scope := by
  unfold ofGroup
  split
  · rw [List.forall_mem_singleton]
    exact .or h
  · exact h

/-- So is a join with a condition. -/
theorem Sql.Condition.WellScoped.joinedWith {join : Condition} {extra? : Option Condition}
    (hjoin : join.WellScoped catalog scope)
    (hextra : ∀ condition ∈ extra?, condition.WellScoped catalog scope) :
    (join.joinedWith extra?).WellScoped catalog scope := by
  cases extra? with
  | none => exact hjoin
  | some condition => exact hjoin.andAlso (hextra condition rfl)

/-- A relation is joined to the rows outside of an item for its related rows. -/
theorem Relation.join_wellScoped (catalog : Catalog) {repository : Repository} {relation : Relation}
    {scope? : Option String} {table related : Table} {inner : String}
    (coherent : relation.Coherent repository table)
    (known : repository.table? relation.relatedTable = some related)
    (reads : Reads scope scope? table fun _ => ()) (apart : inner ≠ scope?.getD table.name) :
    (relation.join inner (scope?.getD table.name)).WellScoped catalog
      (scope.push (.ofColumns inner related.schema.columns)) := by
  have hsource := (related.reads_push scope inner).own _ (coherent.source_of_table? known)
  have htarget := reads.joined_push (.ofColumns inner related.schema.columns) apart
    coherent.target
  exact .compare (.column hsource) (.column htarget)

/-- A condition on related rows reads them under the alias of their subquery. -/
theorem relatedRow_wellScoped {relation : Relation} {related : Table} {inner : String}
    {condition : Condition} (known : catalog relation.relatedTable = some related.schema.columns)
    (h : condition.WellScoped catalog (scope.push (.ofColumns inner related.schema.columns)))
    (negated : Bool) :
    (Condition.relatedRow relation inner condition negated).WellScoped catalog scope := by
  refine .exists (.rows rfl (.table known) ?_ ?_ (List.forall_mem_nil _))
  · intro column hcolumn
    rw [List.mem_singleton.1 hcolumn]
    exact .raw (by decide)
  · rintro _ ⟨⟩
    exact h

end

/-! ## Filters -/

/-- An entry is compiled as what its key stands for. -/
def FilterTask.Keyed (table : Table) : FilterTask → Prop
  | .entry key kind _ => kind = .ofKey table key
  | .members _ => True
  | .items _ => True

namespace FilterContext

variable {context : FilterContext} {catalog : Catalog}

/-- The conditions of a derivation are well scoped wherever the columns of the table are read under
a name that is not handed out any more. -/
theorem Derives.wellScoped (coherent : context.repository.Coherent)
    (extension : catalog.Extends context.repository.catalog) {table : Table}
    {scope? : Option String} {task : FilterTask} {conditions : List Condition} {n m : Nat}
    (h : context.Derives table scope? task n conditions m) (keyed : task.Keyed table)
    (known : context.repository.table? table.name = some table) {scope : Scope Unit}
    (reads : Reads scope scope? table fun _ => ())
    (fresh : FreshFrom context.stem n (scope?.getD table.name)) :
    ∀ condition ∈ conditions, condition.WellScoped catalog scope := by
  induction h generalizing scope with
  | nil | noItems => exact List.forall_mem_nil _
  | cons head tail hhead htail =>
    rw [List.forall_mem_append]
    exact ⟨hhead rfl known reads fresh, htail trivial known reads (fresh.mono head.le)⟩
  | @group _ _ _ isDisjunction _ _ _ _ _ ih =>
    exact Condition.wellScoped_ofGroup (ih trivial known reads fresh) isDisjunction
  | @single _ _ _ isDisjunction _ _ _ _ _ ih =>
    refine Condition.wellScoped_ofGroup ?_ isDisjunction
    rw [List.forall_mem_singleton]
    exact Condition.wellScoped_ofEntries (ih trivial known reads fresh)
  | negation _ ih =>
    rw [List.forall_mem_singleton]
    exact .not (Condition.wellScoped_ofEntries (ih trivial known reads fresh))
  | @unrelated table scope? _ relation related n hrelated =>
    have hcoherent := coherent _ _ known _ (FilterEntry.mem_of_ofKey keyed)
    rw [List.forall_mem_singleton]
    exact relatedRow_wellScoped (Repository.catalog_of_table? extension hrelated)
      (Relation.join_wellScoped catalog hcoherent hrelated reads (fresh n (Nat.le_refl n)).symm) true
  | @related table scope? _ relation related members parts n _ hrelated inner ih =>
    have hcoherent := coherent _ _ known _ (FilterEntry.mem_of_ofKey keyed)
    have hknown := Repository.table?_self hrelated
    have hjoin := Relation.join_wellScoped catalog hcoherent hrelated reads
      (fresh n (Nat.le_refl n)).symm
    have hparts := ih trivial hknown (related.reads_push scope _) (freshFrom_numberedName _ n)
    rw [List.forall_mem_singleton]
    exact relatedRow_wellScoped (Repository.catalog_of_table? extension hrelated)
      (hjoin.joinedWith (Condition.wellScoped_all hparts)) false
  | column predicates =>
    obtain ⟨hcontains, hparts⟩ := Table.columnConditions_onColumn predicates
    exact fun part hpart => (hparts part hpart).wellScoped (reads.own _ hcontains)
  | item head tail hhead htail =>
    rw [List.forall_mem_cons]
    exact ⟨Condition.wellScoped_ofEntries (hhead trivial known reads fresh),
      htail trivial known reads (fresh.mono head.le)⟩

/-- A compiled filter is well scoped wherever the columns of its table are read under a name apart
from the aliases of filters. -/
theorem wellScoped_condition (coherent : context.repository.Coherent)
    (extension : catalog.Extends context.repository.catalog) {table : Table}
    (known : context.repository.table? table.name = some table) {filter : Json}
    {scope? : Option String} {path : String} {condition? : Option Condition} {n m : Nat}
    (compiled : Returns (context.condition filter table scope? path) n condition? m)
    {scope : Scope Unit} (reads : Reads scope scope? table fun _ => ())
    (apart : ¬ InFamily context.stem (scope?.getD table.name)) :
    ∀ condition ∈ condition?, condition.WellScoped catalog scope := by
  obtain ⟨members, conditions, rfl, rfl, derives⟩ := derives_of_condition compiled
  exact Condition.wellScoped_all (derives.wellScoped coherent extension trivial known reads
    (.of_not_inFamily apart n))

end FilterContext

end RelationalQuery
