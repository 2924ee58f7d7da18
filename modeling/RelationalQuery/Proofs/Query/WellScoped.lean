import RelationalQuery.Proofs.Query.Alteration
import RelationalQuery.Proofs.Query.Insertion
import RelationalQuery.Query.Compiler

/-!
# Compiled queries are well scoped

Selections, deletes and counts are single statements on a table alone.  Together with inserts and
updates, every query of an accepted repository is compiled to a chain in which every column belongs
to exactly one item in its scope, and that item provides the column.

A delete or a count without a filter does not look up its table.  Such a statement may name a table
that is not known, but it reads no column of it.

Main results:

- `ProjectionContext.select_exposes`, `ProjectionContext.delete_exposes` and
  `ProjectionContext.count_exposes`: single statements are well scoped.
- `WriteContext.compiled_wellScoped`: compiled chains are well scoped.
-/

namespace RelationalQuery

open Sql (Catalog Chain Delete Select Statement Tables)

/-! ## Single statements -/

/-- A statement that is not named by a chain reads all tables. -/
theorem Sql.Chain.WellScoped.single {tables : Tables} {stem : String} {statement : Statement}
    (h : ∃ columns, statement.Exposes tables (fun name => some (tables name)) columns) :
    (Chain.single stem statement).WellScoped tables := by
  obtain ⟨columns, h⟩ := h
  exact .cons h .nil

/-- Every table that the repository knows has its columns. -/
theorem Repository.extends_columnsOf (repository : Repository) :
    Catalog.Extends (fun name => some (repository.columnsOf name)) repository.catalog := by
  intro name columns hname
  simp [columnsOf, hname]

namespace ProjectionContext

variable {context : ProjectionContext} {table : String} {a b : Aliases}

/-- A compiled selection is well scoped. -/
theorem select_exposes (coherent : context.repository.Coherent)
    (apart : context.config.Apart context.repository) {query : SelectQuery} {select : Select}
    (compiled : Returns (context.select table query) a select b) :
    ∃ columns, (Statement.select select).Exposes context.repository.columnsOf
      (fun name => some (context.repository.columnsOf name)) columns := by
  obtain ⟨info, columns, condition?, order, _, hfound, hcolumns, hcondition, horder, rfl⟩ :=
    select_cases compiled
  have hextension := context.repository.extends_columnsOf
  refine ⟨_, .select (.rows rfl (.table rfl) ?_ ?_ ?_)⟩
  · exact context.wellScoped_own coherent apart hextension hcolumns
  · exact context.wellScoped_conditionOn? coherent apart hextension hcondition (.inr rfl)
  · rw [Repository.columnsOf_table? hfound]
    exact orderTerms_wellScoped horder (info.reads_push [] table)

/-- So is a compiled delete. -/
theorem delete_exposes (coherent : context.repository.Coherent)
    (apart : context.config.Apart context.repository) {query : DeleteQuery} {delete : Delete}
    (compiled : Returns (context.delete table query) a delete b) :
    ∃ columns, (Statement.delete delete).Exposes context.repository.columnsOf
      (fun name => some (context.repository.columnsOf name)) columns := by
  have hextension := context.repository.extends_columnsOf
  obtain ⟨condition?, returning, _, hcondition, hreturning, rfl⟩ := delete_cases compiled
  have hfilter := context.wellScoped_conditionOn? coherent apart hextension hcondition (.inl rfl)
  split at hreturning
  · exact ⟨_, .delete rfl hfilter (context.wellScoped_own coherent apart hextension hreturning)⟩
  · rw [hreturning]
    exact ⟨_, .delete rfl hfilter (List.forall_mem_nil _)⟩

/-- So is a compiled count. -/
theorem count_exposes (coherent : context.repository.Coherent)
    (apart : context.config.Apart context.repository) {query : CountQuery} {select : Select}
    (compiled : Returns (context.count table query) a select b) :
    ∃ columns, (Statement.select select).Exposes context.repository.columnsOf
      (fun name => some (context.repository.columnsOf name)) columns := by
  obtain ⟨condition?, hcondition, rfl⟩ := count_cases compiled
  have hfilter := context.wellScoped_conditionOn? coherent apart
    context.repository.extends_columnsOf hcondition (.inl rfl)
  refine ⟨_, .select (.rows rfl (.table rfl) ?_ hfilter (List.forall_mem_nil _))⟩
  intro column hcolumn
  rw [List.mem_singleton.1 hcolumn]
  exact .raw (by decide)

end ProjectionContext

/-! ## Chains -/

namespace WriteContext

/-- The chain of every compiled query is well scoped, for all queries on an accepted repository
whose tables are not named like statements and subqueries.  Nothing is asked of the validator. -/
theorem compiled_wellScoped {context : WriteContext} (accepted : context.repository.Accepted)
    (apart : context.config.Apart context.repository) {table : String} {query : Query}
    {chain : Chain} {s t : Progress} (compiled : Returns (context.chain table query) s chain t) :
    chain.WellScoped context.repository.columnsOf := by
  have coherent := accepted.coherent
  cases query with
  | insert query => exact insert_wellScoped coherent apart compiled
  | update query => exact update_wellScoped coherent apart compiled
  | select query | findOne query =>
    simp only [WriteContext.chain, returns_bind, returns_pure] at compiled
    obtain ⟨select, _, hselect, rfl, rfl⟩ := compiled
    obtain ⟨_, hselect⟩ := returns_naming hselect
    exact .single
      (context.projection.select_exposes coherent apart hselect)
  | delete query =>
    simp only [WriteContext.chain, returns_bind, returns_pure] at compiled
    obtain ⟨delete, _, hdelete, rfl, rfl⟩ := compiled
    obtain ⟨_, hdelete⟩ := returns_naming hdelete
    exact .single
      (context.projection.delete_exposes coherent apart hdelete)
  | count query =>
    simp only [WriteContext.chain, returns_bind, returns_pure] at compiled
    obtain ⟨select, _, hselect, rfl, rfl⟩ := compiled
    obtain ⟨_, hselect⟩ := returns_naming hselect
    exact .single
      (context.projection.count_exposes coherent apart hselect)

end WriteContext

namespace Library

/-- Writes with the default settings, where every record is accepted. -/
def writes : WriteContext := ⟨repository, .default, fun _ _ _ _ => pure ()⟩

theorem apart : Config.default.Apart repository where
  chainProjection := disjointFamilies_of_stems (by decide) (by decide)
  chainFilter := disjointFamilies_of_stems (by decide) (by decide)
  projectionFilter := disjointFamilies_of_stems (by decide) (by decide)
  tables := by
    intro name table hname
    -- The names of tables start with none of the three letters.
    have hletters : ∀ stem ∈ ["R", "S", "W"], ¬ stem.toList <+: name.toList := by
      rcases table?_cases hname with ⟨rfl, -⟩ | ⟨rfl, -⟩ <;> decide
    refine ⟨?_, ?_, ?_⟩ <;> exact fun h => hletters _ (by decide) h.startsWith_stem

/-- A new author with a book. -/
def newAuthor : InsertQuery where
  data := .object [("id", Json.ofUInt64 1), ("name", .string "Ada"),
    ("books", .array [.object [("id", Json.ofUInt64 2), ("year", Json.ofUInt64 9)]])]
  select? := none
  include? := none

end Library

namespace WriteContext

/-- The book of a new author refers to the statement for the author. -/
theorem compiled_wellScoped_library :
    ∃ chain next, Returns (Library.writes.chain "author" (.insert Library.newAuthor))
        Progress.start chain next ∧
      chain.statements.length = 2 ∧ chain.WellScoped Library.repository.columnsOf := by
  refine ⟨_, _, rfl, rfl, ?_⟩
  have haccepted : Library.writes.repository.Accepted := Library.accepted
  have hchain : Returns (Library.writes.chain "author" (.insert Library.newAuthor)) Progress.start
    _ _ := rfl
  exact compiled_wellScoped haccepted Library.apart hchain

end WriteContext

end RelationalQuery
