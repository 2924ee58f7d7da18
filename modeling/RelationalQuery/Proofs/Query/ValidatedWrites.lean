import Mathlib.Data.List.Induction
import RelationalQuery.Proofs.Query.Rows
import RelationalQuery.Proofs.Query.WriteSet

/-!
# Written values passed the validator

A validator is any check of records.  Before a value is written, the compilation hands a record with
this value to the validator, and goes on only if the record is accepted.  So whatever the validator
is, each value in the statements of an insert or of an update is a link to rows of the chain, an
operation on the current value, or a value that the validator accepted under its key.

Main definitions:

- `Statement.writes` are the places that a statement writes, with what is written there.
- `Validator.Passes` says that one of some checks was passed by a value under its key.
- `Statement.IsChecked` says this of what a statement writes to a place.

Main results:

- `WriteContext.alterationPlan_passes` and `WriteContext.insertPlan_passes`: the checks that are
  made for the data of an update and of an insert.
- `WriteContext.written_values_pass`: no statement writes a value that was not checked.
-/

namespace RelationalQuery

open Sql (Assignment Chain Expr Projection Record Statement)

/-! ## What statements write -/

/-- The places that a statement writes, with what is written there. -/
def Sql.Statement.writes : Statement → List (Place × Expr)
  | .insert s => (s.record?.elim [] Record.entries).map fun entry => (⟨entry.1, none⟩, entry.2)
  | .update s => s.assignments.flatMap Assignment.writes
  | .select _ | .delete _ => []

namespace Sql.Expr

/-- An expression is a reference to a row of an earlier statement. -/
def IsReference (expr : Expr) : Prop := ∃ source column, expr = .reference source column

/-- An expression is an operation on a current value. -/
def IsOperation (expr : Expr) : Prop :=
  ∃ target operator operand numericType, expr = .operation target operator operand numericType

end Sql.Expr

/-- The schema that declares a place in a table, with the key of the place in it: for a key inside a
column this is the schema of the column. -/
def Place.declaration? (place : Place) (schema : ObjectSchema) : Option (ObjectSchema × String) :=
  match place.key? with
  | none => some (schema, place.column)
  | some key => ((schema.get? place.column).bind Field.objectSchema?).map fun nested => (nested, key)

/-! ## Checks that were passed -/

/-- One of some checks was passed by a value: the validator accepted a record that gives the key
this value, against the schema. -/
def Validator.Passes (validator : Validator) (mode : ValidationMode) (schema : ObjectSchema)
    (calls : List ValidationCall) (key : String) (value : Json) : Prop :=
  ∃ call ∈ calls, validator call.record call.schema call.path call.mode = .ok () ∧
    call.mode = mode ∧ call.schema = schema ∧ (key, value) ∈ call.record

/-- What a statement writes to a place was checked: it is the value of the key of this place, and it
passed under the schema of the table that declares the key.  At most the columns that the statement
fills with links were made optional. -/
def Sql.Statement.IsChecked (context : WriteContext) (mode : ValidationMode)
    (calls : List ValidationCall) (statement : Statement) (write : Place × Expr) : Prop :=
  ∃ name table schema key value links,
    statement.changed? = some name ∧ context.repository.table? name = some table ∧
    write.1.declaration? table.schema = some (schema, key) ∧ schema.contains key = true ∧
    (∀ column ∈ links, ∃ link, (⟨column, none⟩, link) ∈ statement.writes ∧ link.IsReference) ∧
    context.validator.Passes mode (schema.withOptional links) calls key value ∧
    write.2.Holds value

section

variable {validator : Validator} {mode : ValidationMode} {schema : ObjectSchema}
  {calls more : List ValidationCall} {key : String} {value : Json}

/-- Without any names no field is made optional. -/
theorem ObjectSchema.withOptional_nil (schema : ObjectSchema) : schema.withOptional [] = schema := by
  obtain ⟨fields⟩ := schema
  simp [withOptional]

/-- What passed by some calls has passed by more. -/
theorem Validator.Passes.mono (h : validator.Passes mode schema calls key value)
    (included : calls ⊆ more) : validator.Passes mode schema more key value := by
  obtain ⟨call, hcall, hpassed⟩ := h
  exact ⟨call, included hcall, hpassed⟩

/-- The values of a record that is checked pass. -/
theorem passes_of_validate {record : Members} {path : String} {s t : Progress} {u : Unit}
    (h : Returns (Compilation.validate validator record schema path mode) s u t) :
    ∃ made, t.calls = s.calls ++ made ∧
      ∀ entry ∈ record, validator.Passes mode schema made entry.1 entry.2 := by
  obtain ⟨haccepted, rfl⟩ := returns_validate_iff.1 h
  refine ⟨[⟨path, mode, record, schema⟩], rfl, fun entry hentry => ?_⟩
  exact ⟨_, List.mem_singleton_self _, haccepted, rfl, rfl, hentry⟩

end

/-- What the checks of every step along a list show of its item and its result, all checks show of
all items and results. -/
theorem calls_of_returns_mapM {α β : Type} {f : α → Compilation β}
    {R : List ValidationCall → α → β → Prop} {items : List α} {results : List β} {s t : Progress}
    (mono : ∀ {made more item result}, made ⊆ more → R made item result → R more item result)
    (h : Returns (items.mapM f) s results t)
    (step : ∀ item ∈ items, ∀ s b t, Returns (f item) s b t →
      ∃ made, t.calls = s.calls ++ made ∧ R made item b) :
    ∃ made, t.calls = s.calls ++ made ∧ List.Forall₂ (R made) items results := by
  induction items generalizing s results with
  | nil =>
    rw [List.mapM_nil, returns_pure] at h
    obtain ⟨rfl, rfl⟩ := h
    exact ⟨[], (List.append_nil _).symm, .nil⟩
  | cons item rest ih =>
    rw [List.mapM_cons] at h
    simp only [returns_bind, returns_pure] at h
    obtain ⟨result, r, hitem, others, _, hrest, rfl, rfl⟩ := h
    obtain ⟨first, hfirst, hshown⟩ := step item List.mem_cons_self _ _ _ hitem
    obtain ⟨later, hlater, hothers⟩ :=
      ih hrest fun other hother => step other (List.mem_cons_of_mem _ hother)
    refine ⟨first ++ later, by rw [hlater, hfirst, List.append_assoc], .cons ?_ ?_⟩
    · exact mono (List.subset_append_left _ _) hshown
    · exact hothers.imp fun _ _ => mono (List.subset_append_right _ _)

/-- To hand out aliases makes no checks. -/
theorem calls_of_naming {α : Type} {named : Naming α} {value : α} {s t : Progress}
    (h : Returns (Compilation.naming named) s value t) : t.calls = s.calls := by
  obtain ⟨aliases, -, rfl⟩ := returns_naming_iff.1 h
  rfl

/-! ## The data of an update -/

/-- The value of a datum is an operation, or it passed one of some checks under the schema that
declares its key. -/
def Datum.IsPassed (validator : Validator) (schema : ObjectSchema) (calls : List ValidationCall)
    (datum : Datum) : Prop :=
  datum.operation?.isSome = true ∨
    ∃ declaring key, datum.place.declaration? schema = some (declaring, key) ∧
      declaring.contains key = true ∧
      validator.Passes .partialRecord declaring calls key datum.value

/-- So has a value of the data. -/
theorem Datum.IsPassed.mono {validator : Validator} {schema : ObjectSchema} {datum : Datum}
    {calls more : List ValidationCall} (included : calls ⊆ more)
    (h : datum.IsPassed validator schema calls) : datum.IsPassed validator schema more := by
  rcases h with hoperation | ⟨declaring, key, hdeclared, hcontains, hpassed⟩
  · exact .inl hoperation
  · exact .inr ⟨declaring, key, hdeclared, hcontains, hpassed.mono included⟩

namespace WriteContext

variable {context : WriteContext} {schema : ObjectSchema} {path : String}
  {qualifier? : Option String} {table : Table} {data : Members} {relation : Relation}
  {plan next : AlterationPlan} {s t : Progress}

/-- The value of a key of a patch passes under the schema of the patched column. -/
theorem patchExpr_passes {column : String} {field : Field} {nested : ObjectSchema}
    {entry : String × Json} {expr : Expr} (known : schema.get? column = some field)
    (object : field.objectSchema? = some nested)
    (h : Returns (context.patchExpr column nested path qualifier? entry) s expr t) :
    ∃ made, t.calls = s.calls ++ made ∧ Datum.IsPassed context.validator schema made
      ⟨⟨column, some entry.1⟩, nested.get? entry.1, entry.2, false⟩ := by
  obtain ⟨inner, hinner, hcases⟩ := patchExpr_cases h
  rcases hcases with ⟨members, hmembers, rfl, -⟩ | ⟨-, hvalid, -⟩
  · refine ⟨[], (List.append_nil _).symm, .inl ?_⟩
    simp [Datum.operation?, hinner, Field.operation?_eq, hmembers]
  · obtain ⟨made, hmade, hpassed⟩ := passes_of_validate hvalid
    refine ⟨made, hmade, .inr ⟨nested, entry.1, ?_, ?_, ?_⟩⟩
    · simp [Place.declaration?, known, object]
    · exact ObjectSchema.contains_of_get? hinner
    · exact hpassed entry (List.mem_singleton_self _)

/-- The values of the entry of a column pass. -/
theorem fieldAssignments_passes {entry : String × Json} {assignments : List Assignment}
    (h : Returns (context.fieldAssignments schema path qualifier? entry) s assignments t) :
    ∃ made, t.calls = s.calls ++ made ∧
      ∀ datum ∈ schema.data entry, datum.IsPassed context.validator schema made := by
  obtain ⟨field, hknown, hcases⟩ := fieldAssignments_cases h
  rw [ObjectSchema.data, hknown, Option.bind_some, Field.patch?_eq]
  rcases hcases with ⟨members, expr, hoperation, rfl, -, -⟩ |
    ⟨nested, members, -, hpatched, hassignments⟩ | ⟨expr, -, hpatched, hvalid, -, -⟩
  · refine ⟨[], (List.append_nil _).symm, ?_⟩
    rw [patched?_of_operation hoperation, List.forall_mem_singleton]
    left
    simp [Datum.operation?, Field.operation?_eq, hoperation]
  · have hobject := (patched?_eq_some_iff.1 hpatched).2.1
    obtain ⟨entries, _, hentries, -⟩ := patchAssignments_cases hassignments
    obtain ⟨made, hmade, heach⟩ := calls_of_returns_mapM
      (R := fun made member _ => Datum.IsPassed context.validator schema made
        ⟨⟨entry.1, some member.1⟩, nested.get? member.1, member.2, false⟩)
      Datum.IsPassed.mono hentries fun member _ s result t hmember => by
        simp only [returns_bind, returns_pure] at hmember
        obtain ⟨expr, _, hexpr, -, rfl⟩ := hmember
        exact patchExpr_passes hknown hobject hexpr
    refine ⟨made, hmade, ?_⟩
    rw [hpatched, List.forall_mem_map]
    intro member hmember
    obtain ⟨_, -, hpassed⟩ := exists_mem_of_forall₂ heach.flip hmember
    exact hpassed
  · obtain ⟨made, hmade, hpassed⟩ := passes_of_validate hvalid
    refine ⟨made, hmade, ?_⟩
    rw [hpatched, List.forall_mem_singleton]
    right
    exact ⟨schema, entry.1, rfl, ObjectSchema.contains_of_get? hknown,
      hpassed entry (List.mem_singleton_self _)⟩

/-- The key that connects rows passes. -/
theorem keyDatum_passes {payload : Members} {column : String} {key : Json} {field : Field}
    {u : Unit} (given : Members.get? payload column = some key)
    (known : schema.get? column = some field)
    (h : Returns (context.validate payload schema path .partialRecord) s u t) :
    ∃ made, t.calls = s.calls ++ made ∧
      (schema.keyDatum column key).IsPassed context.validator schema made := by
  have hmem : (column, key) ∈ payload := Entries.mem_of_lookup given
  obtain ⟨made, hmade, hpassed⟩ := passes_of_validate h
  refine ⟨made, hmade, .inr ⟨schema, column, rfl, ?_, ?_⟩⟩
  · exact ObjectSchema.contains_of_get? known
  · exact hpassed (column, key) hmem

/-- What the entry of a relation gives for the rows of the table, and for the related rows, passes
under the schemas of these. -/
def EntryPasses (validator : Validator) (table : Table) (data : Members)
    (calls : List ValidationCall) (relation : Relation) : Prop :=
  (∀ datum ∈ relation.ownData table.schema data, datum.IsPassed validator table.schema calls) ∧
    ∀ datum ∈ relation.relatedData data, datum.IsPassed validator relation.relatedSchema calls

/-- So has the entry of a relation. -/
theorem EntryPasses.mono {validator : Validator} {calls more : List ValidationCall}
    (included : calls ⊆ more) (h : EntryPasses validator table data calls relation) :
    EntryPasses validator table data more relation :=
  ⟨fun datum hdatum => (h.1 datum hdatum).mono included,
    fun datum hdatum => (h.2 datum hdatum).mono included⟩

/-- An entry that connects rows by their key passes. -/
theorem connect_passes {payload : Members} {key : Json}
    (given : relation.payload? data = some payload)
    (connected : relation.connected? payload = some key)
    (h : Returns (context.connect table path plan relation payload key) s next t) :
    ∃ made, t.calls = s.calls ++ made ∧
      EntryPasses context.validator table data made relation := by
  simp only [EntryPasses, Relation.ownData, Relation.relatedData, given, connected,
    Option.bind_some]
  rw [Relation.connected?] at connected
  rcases connect_cases h with ⟨hinverse, field, _, hvalid, hknown, -⟩ |
    ⟨howned, field, _, hvalid, hknown, -⟩
  · rw [Relation.linkColumn_of_inverse hinverse] at connected
    obtain ⟨made, hmade, hpassed⟩ := keyDatum_passes connected hknown hvalid
    rw [if_pos hinverse, if_pos hinverse]
    exact ⟨made, hmade, List.forall_mem_nil _, List.forall_mem_singleton.2 hpassed⟩
  · rw [Relation.linkColumn_of_owned howned] at connected
    obtain ⟨made, hmade, hpassed⟩ := keyDatum_passes connected hknown hvalid
    rw [howned, if_neg Bool.false_ne_true, if_neg Bool.false_ne_true]
    exact ⟨made, hmade, List.forall_mem_singleton.2 hpassed, List.forall_mem_nil _⟩

/-- The values of the entries of columns pass. -/
theorem mapM_fieldAssignments_passes {entries : Members} {assignments : List (List Assignment)}
    (h : Returns (entries.mapM (context.fieldAssignments schema path qualifier?)) s assignments t) :
    ∃ made, t.calls = s.calls ++ made ∧
      ∀ datum ∈ entries.flatMap schema.data, datum.IsPassed context.validator schema made := by
  obtain ⟨made, hmade, heach⟩ := calls_of_returns_mapM
    (R := fun made entry _ => ∀ datum ∈ schema.data entry,
      datum.IsPassed context.validator schema made)
    (fun included hpassed datum hdatum => (hpassed datum hdatum).mono included) h
    fun _ _ _ _ _ hentry => fieldAssignments_passes hentry
  refine ⟨made, hmade, fun datum hdatum => ?_⟩
  obtain ⟨entry, hentry, hdatum⟩ := List.mem_flatMap.1 hdatum
  obtain ⟨_, -, hpassed⟩ := exists_mem_of_forall₂ heach.flip hentry
  exact hpassed datum hdatum

/-- The values of the entry of a relation pass. -/
theorem addRelation_passes
    (h : Returns (context.addRelation table data plan relation) s next t) :
    ∃ made, t.calls = s.calls ++ made ∧
      EntryPasses context.validator table data made relation := by
  rcases addRelation_cases h with ⟨habsent, -, rfl⟩ |
    ⟨payload, hgiven, ⟨key, hkey, hconnect⟩ | ⟨hkey, assignments, hassignments, -⟩⟩
  · refine ⟨[], (List.append_nil _).symm, ?_⟩
    simp [EntryPasses, Relation.ownData, Relation.relatedData, habsent]
  · exact connect_passes hgiven hkey hconnect
  · obtain ⟨made, hmade, hpassed⟩ := mapM_fieldAssignments_passes hassignments
    refine ⟨made, hmade, ?_⟩
    simp only [EntryPasses, Relation.ownData, Relation.relatedData, hgiven, hkey, Option.bind_some]
    exact ⟨List.forall_mem_nil _, hpassed⟩

/-- The entries of all relations pass. -/
theorem foldlM_addRelation_passes {relations : List Relation}
    (h : Returns (relations.foldlM (context.addRelation table data) plan) s next t) :
    ∃ made, t.calls = s.calls ++ made ∧
      ∀ relation ∈ relations, EntryPasses context.validator table data made relation := by
  refine returns_foldlM_compose (R := fun relations first last =>
    ∃ made, last.2.calls = first.2.calls ++ made ∧
      ∀ relation ∈ relations, EntryPasses context.validator table data made relation) h ?_ ?_ ?_
  · exact fun _ => ⟨[], (List.append_nil _).symm, List.forall_mem_nil _⟩
  · rintro relation rest _ _ _ ⟨first, hfirst, hpassed⟩ ⟨later, hlater, hothers⟩
    refine ⟨first ++ later, by rw [hlater, hfirst, List.append_assoc], ?_⟩
    refine List.forall_mem_cons.2 ⟨?_, fun other hother => ?_⟩
    · exact (List.forall_mem_singleton.1 hpassed).mono (List.subset_append_left _ _)
    · exact (hothers other hother).mono (List.subset_append_right _ _)
  · intro relation _ _ _ _ _ hstep
    obtain ⟨made, hmade, hpassed⟩ := addRelation_passes hstep
    exact ⟨made, hmade, List.forall_mem_singleton.2 hpassed⟩

/-- All values that the data of an update gives pass, each under the schema of its table. -/
theorem alterationPlan_passes (h : Returns (context.alterationPlan table data) s plan t) :
    ∃ made, t.calls = s.calls ++ made ∧
      (∀ datum ∈ table.ownData data, datum.IsPassed context.validator table.schema made) ∧
      ∀ relation ∈ table.relations, ∀ datum ∈ relation.relatedData data,
        datum.IsPassed context.validator relation.relatedSchema made := by
  simp only [alterationPlan, returns_bind] at h
  obtain ⟨own, r, hown, hsteps⟩ := h
  obtain ⟨first, hfirst, hcolumns⟩ := mapM_fieldAssignments_passes hown
  obtain ⟨later, hlater, hrelated⟩ := foldlM_addRelation_passes hsteps
  refine ⟨first ++ later, by rw [hlater, hfirst, List.append_assoc], ?_, ?_⟩
  · rw [Table.ownData, Table.ownMembers_eq, List.forall_mem_append]
    constructor
    · exact fun datum hdatum => (hcolumns datum hdatum).mono (List.subset_append_left _ _)
    · intro datum hdatum
      obtain ⟨relation, hrelation, hdatum⟩ := List.mem_flatMap.1 hdatum
      exact ((hrelated relation hrelation).1 datum hdatum).mono (List.subset_append_right _ _)
  · intro relation hrelation datum hdatum
    exact ((hrelated relation hrelation).2 datum hdatum).mono (List.subset_append_right _ _)

end WriteContext

/-! ## The data of an insert -/

/-- The values of a record passed under a schema, in which some links are optional. -/
def Sql.Record.IsPassed (validator : Validator) (schema : ObjectSchema) (links : List String)
    (calls : List ValidationCall) (record : Record) : Prop :=
  ∀ entry ∈ record.entries, ∃ value, schema.contains entry.1 = true ∧
    validator.Passes .full (schema.withOptional links) calls entry.1 value ∧ entry.2.Holds value

/-- So has a record. -/
theorem Sql.Record.IsPassed.mono {validator : Validator} {schema : ObjectSchema}
    {links : List String} {record : Record} {calls more : List ValidationCall}
    (included : calls ⊆ more) (h : record.IsPassed validator schema links calls) :
    record.IsPassed validator schema links more := by
  intro entry hentry
  obtain ⟨value, hcontains, hpassed, hholds⟩ := h entry hentry
  exact ⟨value, hcontains, hpassed.mono included, hholds⟩

/-- The values of an encoded record are those of its members. -/
theorem passed_of_encodedRecord {validator : Validator} {schema : ObjectSchema}
    {links : List String} {members : Members} {path : String} {record : Record}
    {calls : List ValidationCall}
    (passed : ∀ member ∈ members,
      validator.Passes .full (schema.withOptional links) calls member.1 member.2)
    (h : encodedRecord members schema path = .ok record) :
    record.IsPassed validator schema links calls := by
  simp only [encodedRecord, bind_eq_ok_iff, pure_eq_ok_iff] at h
  obtain ⟨entries, hentries, rfl⟩ := h
  intro entry hentry
  rcases Record.mem_setAll hentry with hentry | hentry
  · obtain ⟨member, hmember, hencoded⟩ := exists_mem_of_forall₂ (forall₂_of_mapM_eq_ok hentries) hentry
    simp only [bind_eq_ok_iff, pure_eq_ok_iff] at hencoded
    obtain ⟨field, hfield, value, hvalue, rfl⟩ := hencoded
    exact ⟨member.2, ObjectSchema.contains_of_field hfield, passed member hmember,
      WriteContext.fieldExpr_holds hvalue⟩
  · simp [Record.empty] at hentry

namespace WriteContext

variable {context : WriteContext} {table : Table} {data : Members} {s t : Progress}

/-- A row passed under the schema of its relation, in which some links are optional, and the
relation is one of the table. -/
def RowPasses (validator : Validator) (table : Table) (links : List String)
    (calls : List ValidationCall) (row : NewRow) : Prop :=
  row.relation ∈ table.relations ∧
    row.record.IsPassed validator row.relation.relatedSchema links calls

/-- So has a related row. -/
theorem RowPasses.mono {validator : Validator} {links : List String} {row : NewRow}
    {calls more : List ValidationCall} (included : calls ⊆ more)
    (h : RowPasses validator table links calls row) : RowPasses validator table links more row :=
  ⟨h.1, h.2.mono included⟩

/-- The entry of a relation whose key the new row holds adds at most a row that passes. -/
theorem addForeign_passes {keys next : ForeignKeys} {entry : Relation × Json}
    (own : entry.1 ∈ table.relations)
    (h : Returns (context.addForeign table.name keys entry) s next t) :
    ∃ made, t.calls = s.calls ++ made ∧ ∃ rows, next.parents = keys.parents ++ rows ∧
      ∀ row ∈ rows, RowPasses context.validator table [] made row := by
  obtain ⟨payload?, -, hcases⟩ := addForeign_cases h
  rcases hcases with ⟨-, rfl, rfl⟩ | ⟨payload, -, -, hcases⟩
  · exact ⟨[], (List.append_nil _).symm, [], (List.append_nil _).symm, List.forall_mem_nil _⟩
  · rcases hcases with ⟨key, -, -, rfl, rfl⟩ | ⟨-, record, hvalid, hrecord, rfl⟩
    · exact ⟨[], (List.append_nil _).symm, [], (List.append_nil _).symm, List.forall_mem_nil _⟩
    · obtain ⟨made, hmade, hpassed⟩ := passes_of_validate hvalid
      refine ⟨made, hmade, [⟨entry.1, record⟩], rfl, ?_⟩
      refine List.forall_mem_singleton.2 ⟨own, passed_of_encodedRecord ?_ hrecord⟩
      rw [ObjectSchema.withOptional_nil]
      exact hpassed

/-- The rows before the new row pass. -/
theorem foldlM_addForeign_passes {keys next : ForeignKeys} {entries : List (Relation × Json)}
    (own : ∀ entry ∈ entries, entry.1 ∈ table.relations)
    (h : Returns (entries.foldlM (context.addForeign table.name) keys) s next t) :
    ∃ made, t.calls = s.calls ++ made ∧ ∃ rows, next.parents = keys.parents ++ rows ∧
      ∀ row ∈ rows, RowPasses context.validator table [] made row := by
  refine returns_foldlM_compose (R := fun _ first last =>
    ∃ made, last.2.calls = first.2.calls ++ made ∧
      ∃ rows, last.1.parents = first.1.parents ++ rows ∧
        ∀ row ∈ rows, RowPasses context.validator table [] made row) h ?_ ?_ ?_
  · exact fun _ =>
      ⟨[], (List.append_nil _).symm, [], (List.append_nil _).symm, List.forall_mem_nil _⟩
  · rintro entry rest _ _ _ ⟨first, hfirst, rows, hrows, hpassed⟩
      ⟨later, hlater, others, hothers, hrest⟩
    refine ⟨first ++ later, by rw [hlater, hfirst, List.append_assoc], rows ++ others,
      by rw [hothers, hrows, List.append_assoc], List.forall_mem_append.2 ⟨?_, ?_⟩⟩
    · exact fun row hrow => (hpassed row hrow).mono (List.subset_append_left _ _)
    · exact fun row hrow => (hrest row hrow).mono (List.subset_append_right _ _)
  · exact fun entry hentry _ _ _ _ hstep => addForeign_passes (own entry hentry) hstep

/-- The rows of a relation that refer to the new row pass without the column that links them. -/
theorem childRows_passes {entry : Relation × Json} {rows : List NewRow}
    (own : entry.1 ∈ table.relations) (h : Returns (context.childRows table.name entry) s rows t) :
    ∃ made, t.calls = s.calls ++ made ∧ ∀ row ∈ rows,
      RowPasses context.validator table [row.relation.sourceColumn] made row := by
  simp only [childRows, returns_bind, returns_monadLift] at h
  obtain ⟨payloads, _, ⟨-, rfl⟩, h⟩ := h
  obtain ⟨made, hmade, heach⟩ := calls_of_returns_mapM
    (R := fun made _ row => RowPasses context.validator table [row.relation.sourceColumn] made row)
    RowPasses.mono h fun payload _ _ row _ hrow => by
      obtain ⟨-, hvalid, hrelation, hrecord⟩ := childRow_cases hrow
      obtain ⟨made, hmade, hpassed⟩ := passes_of_validate hvalid
      refine ⟨made, hmade, ?_⟩
      rw [RowPasses, hrelation]
      exact ⟨own, passed_of_encodedRecord hpassed hrecord⟩
  refine ⟨made, hmade, fun row hrow => ?_⟩
  obtain ⟨_, -, hpassed⟩ := exists_mem_of_forall₂ heach hrow
  exact hpassed

/-- All rows of an insert pass, each under the schema of its table and without its links. -/
theorem insertPlan_passes {plan : InsertPlan} (h : Returns (context.insertPlan table data) s plan t) :
    ∃ made, t.calls = s.calls ++ made ∧
      (∀ row ∈ plan.parents, RowPasses context.validator table [] made row) ∧
      plan.own.IsPassed context.validator table.schema
        (plan.parents.map (·.relation.targetColumn)) made ∧
      ∀ row ∈ plan.children,
        RowPasses context.validator table [row.relation.sourceColumn] made row := by
  have hown : ∀ {entries : List (Relation × Json)}, entries ⊆ relationEntries table data →
      ∀ entry ∈ entries, entry.1 ∈ table.relations := fun included entry hentry =>
    Table.mem_of_relation? (relation?_of_mem_relationEntries (included hentry))
  simp only [insertPlan, returns_bind, returns_pure, returns_monadLift] at h
  obtain ⟨keys, _, hkeys, _, _, hvalid, own, _, ⟨hrecord, rfl⟩, children, _, hchildren, rfl, rfl⟩ :=
    h
  obtain ⟨first, hfirst, parents, hparents, hforeign⟩ :=
    foldlM_addForeign_passes (hown (List.filter_subset_self _)) hkeys
  obtain ⟨second, hsecond, hpassed⟩ := passes_of_validate hvalid
  obtain ⟨third, hthird, hinverse⟩ := calls_of_returns_mapM
    (R := fun made _ (rows : List NewRow) => ∀ row ∈ rows,
      RowPasses context.validator table [row.relation.sourceColumn] made row)
    (fun included hpassed row hrow => (hpassed row hrow).mono included) hchildren
    fun entry hentry _ _ _ hstep =>
      childRows_passes (hown (List.filter_subset_self _) entry hentry) hstep
  refine ⟨first ++ (second ++ third), ?_, ?_, ?_, ?_⟩
  · rw [hthird, hsecond, hfirst, List.append_assoc, List.append_assoc]
  · rw [hparents]
    exact fun row hrow => (hforeign row hrow).mono (List.subset_append_left _ _)
  · refine (passed_of_encodedRecord hpassed hrecord).mono ?_
    exact List.Subset.trans (List.subset_append_left _ _) (List.subset_append_right _ _)
  · intro row hrow
    obtain ⟨rows, hrows, hrow⟩ := List.mem_flatten.1 hrow
    obtain ⟨_, -, hpassed⟩ := exists_mem_of_forall₂ hinverse hrows
    exact (hpassed row hrow).mono
      (List.Subset.trans (List.subset_append_right _ _) (List.subset_append_right _ _))

end WriteContext

/-! ## Statements -/

/-- The columns that are set stand in a record with one of their values. -/
theorem Sql.Record.exists_mem_setAll {record : Record} {entries : List (String × Expr)}
    {column : String} (given : column ∈ Entries.names entries) :
    ∃ expr, (column, expr) ∈ entries ∧ (column, expr) ∈ (record.setAll entries).entries := by
  suffices h : ∃ expr, (column, expr) ∈ entries ∧
      (record.setAll entries).entries.lookup column = some expr by
    obtain ⟨expr, hexpr, hfound⟩ := h
    exact ⟨expr, hexpr, Entries.mem_of_lookup hfound⟩
  induction entries using List.reverseRecOn with
  | nil => simp [Entries.names] at given
  | append_singleton rest last ih =>
    have hset : record.setAll (rest ++ [last]) = (record.setAll rest).set last.1 last.2 := by
      rw [setAll, List.foldl_append, List.foldl_cons, List.foldl_nil, setAll]
    rw [hset, set, Entries.lookup_put]
    by_cases hlast : column = last.1
    · rw [if_pos hlast, hlast]
      exact ⟨last.2, List.mem_append_right _ (List.mem_singleton_self _), rfl⟩
    · rw [if_neg hlast]
      have hrest : column ∈ Entries.names rest := by
        rw [Entries.names, List.map_append, List.mem_append, List.map_singleton,
          List.mem_singleton] at given
        exact given.resolve_right hlast
      obtain ⟨expr, hexpr, hfound⟩ := ih hrest
      exact ⟨expr, List.mem_append_left _ hexpr, hfound⟩

section

variable {context : WriteContext} {calls : List ValidationCall} {name : String} {table : Table}

/-- A new row is checked if each of its values is a reference or passed, and if it has references in
the columns that were made optional. -/
theorem checked_of_insert {record : Record} {returning : List Projection} (links : List String)
    (known : context.repository.table? name = some table)
    (linked : ∀ column ∈ links, ∃ link, (column, link) ∈ record.entries ∧ link.IsReference)
    (passed : ∀ entry ∈ record.entries, entry.2.IsReference ∨
      ∃ value, table.schema.contains entry.1 = true ∧
        context.validator.Passes .full (table.schema.withOptional links) calls entry.1 value ∧
        entry.2.Holds value) :
    ∀ write ∈ (Statement.insert ⟨some name, some record, returning⟩).writes,
      write.2.IsReference ∨
        (Statement.insert ⟨some name, some record, returning⟩).IsChecked context .full calls
          write := by
  intro write hwrite
  obtain ⟨entry, hentry, rfl⟩ := List.mem_map.1 hwrite
  rcases passed entry hentry with hreference | ⟨value, hcontains, hpassed, hholds⟩
  · exact .inl hreference
  · refine .inr ⟨name, table, table.schema, entry.1, value, links, rfl, known, rfl, hcontains, ?_,
      hpassed, hholds⟩
    intro column hcolumn
    obtain ⟨link, hlink, hreference⟩ := linked column hcolumn
    exact ⟨link, List.mem_map_of_mem (f := fun entry => (Place.mk entry.1 none, entry.2)) hlink,
      hreference⟩

/-- What an update writes is checked if it are values that passed. -/
theorem checked_of_update {update : Sql.Update} {data : List Datum} {qualifier? : Option String}
    (changed : update.table? = some name) (known : context.repository.table? name = some table)
    (passed : ∀ datum ∈ data, datum.IsPassed context.validator table.schema calls)
    (written : Assignment.Write update.assignments qualifier? data) :
    ∀ write ∈ (Statement.update update).writes, write.2.IsOperation ∨
      (Statement.update update).IsChecked context .partialRecord calls write := by
  intro write hwrite
  obtain ⟨datum, hdatum, hplace, hstored⟩ := exists_mem_of_forall₂ written.each hwrite
  rw [Datum.IsStored] at hstored
  rcases passed datum hdatum with hoperation | ⟨declaring, key, hdeclared, hcontains, hpassed⟩
  · obtain ⟨members, hmembers⟩ := Option.isSome_iff_exists.1 hoperation
    rw [hmembers] at hstored
    obtain ⟨_, _, _, -, -, -, hexpr⟩ := hstored
    exact .inl ⟨_, _, _, _, hexpr⟩
  · cases hmembers : datum.operation? with
    | some members =>
      rw [hmembers] at hstored
      obtain ⟨_, _, _, -, -, -, hexpr⟩ := hstored
      exact .inl ⟨_, _, _, _, hexpr⟩
    | none =>
      rw [hmembers] at hstored
      refine .inr ⟨name, table, declaring, key, datum.value, [], changed, known, ?_, hcontains,
        List.forall_mem_nil _, ?_, hstored⟩
      · rw [hplace]
        exact hdeclared
      · rw [ObjectSchema.withOptional_nil]
        exact hpassed

end

namespace InsertPlan

variable {context : WriteContext} {plan : InsertPlan} {table : Table} {stem : String}
  {select? include? : Option Json} {calls : List ValidationCall}

/-- A statement for a related row is checked if the row passed. -/
theorem parentStatement_checked (coherent : context.repository.Coherent)
    (known : context.repository.table? table.name = some table) {row : NewRow}
    (passed : WriteContext.RowPasses context.validator table [] calls row) :
    ∀ write ∈ (parentStatement select? include? row).writes, write.2.IsReference ∨
      (parentStatement select? include? row).IsChecked context .full calls write := by
  obtain ⟨related, hrelated, hschema⟩ := (coherent _ _ known _ passed.1).related
  refine checked_of_insert [] hrelated (List.forall_mem_nil _) fun entry hentry => .inr ?_
  rw [hschema]
  exact passed.2 entry hentry

/-- What is written for a row that refers to the new one is checked, but for its link. -/
theorem childStatement_checked (coherent : context.repository.Coherent)
    (known : context.repository.table? table.name = some table) {row : NewRow}
    (passed : WriteContext.RowPasses context.validator table [row.relation.sourceColumn] calls
      row) :
    ∀ write ∈ (plan.childStatement stem select? include? row).writes, write.2.IsReference ∨
      (plan.childStatement stem select? include? row).IsChecked context .full calls write := by
  obtain ⟨related, hrelated, hschema⟩ := (coherent _ _ known _ passed.1).related
  have hlink : (row.relation.sourceColumn,
      Expr.reference (plan.ownName stem) row.relation.targetColumn) ∈
        (plan.childRecord stem row).entries := by
    apply Entries.mem_of_lookup
    rw [childRecord, Record.set, Entries.lookup_put, if_pos rfl]
  refine checked_of_insert [row.relation.sourceColumn] hrelated ?_ fun entry hentry => ?_
  · exact List.forall_mem_singleton.2 ⟨_, hlink, _, _, rfl⟩
  · rcases Record.mem_set hentry with rfl | hentry
    · exact .inl ⟨_, _, rfl⟩
    · rw [hschema]
      exact .inr (passed.2 entry hentry)

/-- The statement for the new row is checked if its values passed. -/
theorem ownStatement_checked (known : context.repository.table? table.name = some table)
    (passed : plan.own.IsPassed context.validator table.schema
      (plan.parents.map (·.relation.targetColumn)) calls) (returning : List Projection) :
    ∀ write ∈ (plan.ownStatement stem table returning).writes, write.2.IsReference ∨
      (plan.ownStatement stem table returning).IsChecked context .full calls write := by
  have hlinks : ∀ link ∈ plan.links stem, link.2.IsReference := by
    intro link hlink
    obtain ⟨_, -, rfl⟩ := List.mem_map.1 hlink
    exact ⟨_, _, rfl⟩
  refine checked_of_insert (plan.parents.map (·.relation.targetColumn)) known ?_
    fun entry hentry => ?_
  · rw [← names_links plan stem]
    intro column hcolumn
    obtain ⟨link, hlink, hset⟩ := Record.exists_mem_setAll hcolumn
    exact ⟨link, hset, hlinks _ hlink⟩
  · rcases Record.mem_setAll hentry with hlink | hown
    · exact .inl (hlinks entry hlink)
    · exact .inr (passed entry hown)

end InsertPlan

/-! ## Chains -/

/-- How much of a record a query checks before it writes. -/
def Query.validationMode : Query → ValidationMode
  | .insert _ => .full
  | _ => .partialRecord

namespace WriteContext

variable {context : WriteContext} {table : String} {data : Json}
  {filter? select? include? : Option Json} {chain : Chain} {s t : Progress}

/-- Every value of an insert is a reference or was checked. -/
theorem insert_checked (coherent : context.repository.Coherent)
    (compiled : Returns (context.insert table data select? include?) s chain t) :
    ∃ made, t.calls = s.calls ++ made ∧
      ∀ statement ∈ chain.statements, ∀ write ∈ statement.writes,
        write.2.IsReference ∨ statement.IsChecked context .full made write := by
  obtain ⟨info, members, plan, r, hknown, -, hplan, hchain⟩ := insert_cases compiled
  replace hknown := Repository.table?_self hknown
  obtain ⟨made, hmade, hparents, hown, hchildren⟩ := insertPlan_passes hplan
  refine ⟨made, (calls_of_naming hchain).trans hmade, ?_⟩
  obtain ⟨_, hchain⟩ := returns_naming hchain
  obtain ⟨returning, selections, rfl, -, hselected⟩ := InsertPlan.chain_cases hchain
  intro statement hstatement
  rw [List.mem_append, List.mem_append, List.mem_cons, List.mem_map, List.mem_map] at hstatement
  rcases hstatement with (⟨row, hrow, rfl⟩ | rfl | ⟨row, hrow, rfl⟩) | hselection
  · exact InsertPlan.parentStatement_checked coherent hknown (hparents row hrow)
  · exact InsertPlan.ownStatement_checked hknown hown returning
  · exact InsertPlan.childStatement_checked coherent hknown (hchildren row hrow)
  · split at hselected
    · obtain ⟨select, _, _, -, rfl⟩ := hselected
      rw [List.mem_singleton.1 hselection]
      exact List.forall_mem_nil _
    · simp [hselected] at hselection

/-- The chain of an update makes no checks beyond those of its plan. -/
theorem calls_of_chain {plan : AlterationPlan} {info : Table} {context : ProjectionContext}
    (h : Returns (plan.chain context info filter? select? include?) s chain t) :
    t.calls = s.calls := by
  obtain ⟨_, _, _, _, r, -, -, hcalls, hchainOf⟩ := AlterationPlan.chain_steps h
  unfold AlterationPlan.chainOf at hchainOf
  simp only at hchainOf
  split at hchainOf
  · simp only [returns_bind, returns_pure] at hchainOf
    obtain ⟨_, _, hcolumns, -, rfl⟩ := hchainOf
    exact (calls_of_naming hcolumns).trans hcalls
  · rw [(returns_pure.1 hchainOf).2]
    exact hcalls

/-- Every value of an update is an operation or was checked. -/
theorem update_checked (coherent : context.repository.Coherent)
    (compiled : Returns (context.update table data filter? select? include?) s chain t) :
    ∃ made, t.calls = s.calls ++ made ∧
      ∀ statement ∈ chain.statements, ∀ write ∈ statement.writes,
        write.2.IsOperation ∨ statement.IsChecked context .partialRecord made write := by
  obtain ⟨info, members, plan, r, hknown, -, hplan, hchain⟩ := plan_of_update compiled
  replace hknown := Repository.table?_self hknown
  obtain ⟨made, hmade, hown, hrelated⟩ := alterationPlan_passes hplan
  refine ⟨made, (calls_of_chain hchain).trans hmade, ?_⟩
  obtain ⟨hwritten, hsteps, -⟩ := alterationPlan_writes hplan
  obtain ⟨condition?, returning, selections, rfl, hselected⟩ := AlterationPlan.chain_cases hchain
  intro statement hstatement
  rw [List.mem_append, List.mem_cons, List.mem_map] at hstatement
  rcases hstatement with (rfl | ⟨step, hstep, rfl⟩) | hselection
  · unfold AlterationPlan.ownStatement
    split
    · exact List.forall_mem_nil _
    · exact checked_of_update rfl hknown hown hwritten
  · obtain ⟨relation, hrelation, hwrites⟩ := exists_mem_of_forall₂ hsteps hstep
    replace hrelation := (List.mem_filter.1 hrelation).1
    obtain ⟨related, hfound, hschema⟩ := (coherent _ _ hknown relation hrelation).related
    obtain ⟨hwrite, rfl⟩ := hwrites
    refine checked_of_update rfl hfound ?_ hwrite
    rw [hschema]
    exact hrelated _ hrelation
  · split at hselected
    · obtain ⟨columns, _, _, -, rfl⟩ := hselected
      rw [List.mem_singleton.1 hselection]
      exact List.forall_mem_nil _
    · simp [hselected] at hselection

/-- No value is written unchecked.  Whatever the validator is, each value in the statements of a
query is a reference to a row of the chain, an operation on a current value, or it was part of a
record that the validator accepted while the query was compiled. -/
theorem written_values_pass {query : Query} (accepted : context.repository.Accepted)
    (compiled : Returns (context.chain table query) s chain t) :
    ∃ made, t.calls = s.calls ++ made ∧
      ∀ statement ∈ chain.statements, ∀ write ∈ statement.writes,
        write.2.IsReference ∨ write.2.IsOperation ∨
          statement.IsChecked context query.validationMode made write := by
  cases query with
  | insert query =>
    obtain ⟨made, hmade, hchecked⟩ := insert_checked accepted.coherent compiled
    exact ⟨made, hmade, fun statement hstatement write hwrite =>
      (hchecked statement hstatement write hwrite).imp_right .inr⟩
  | update query =>
    obtain ⟨made, hmade, hchecked⟩ := update_checked accepted.coherent compiled
    exact ⟨made, hmade, fun statement hstatement write hwrite =>
      .inr (hchecked statement hstatement write hwrite)⟩
  | select query | findOne query | count query =>
    simp only [WriteContext.chain, returns_bind, returns_pure] at compiled
    obtain ⟨select, _, hselect, rfl, rfl⟩ := compiled
    refine ⟨[], by rw [calls_of_naming hselect, List.append_nil], ?_⟩
    exact List.forall_mem_singleton.2 (List.forall_mem_nil _)
  | delete query =>
    simp only [WriteContext.chain, returns_bind, returns_pure] at compiled
    obtain ⟨delete, _, hdelete, rfl, rfl⟩ := compiled
    refine ⟨[], by rw [calls_of_naming hdelete, List.append_nil], ?_⟩
    exact List.forall_mem_singleton.2 (List.forall_mem_nil _)

/-- An author is inserted with a book: both rows passed the validator of schemas, and the book
without the column that links it. -/
theorem written_values_pass_library :
    Library.repository.Accepted ∧
      ∃ own child next, Returns ((Library.checkedWrites Library.repository).chain "author"
          (.insert Library.newAuthor)) Progress.start ⟨"R", [own, child]⟩ next ∧
        ∃ made, next.calls = [] ++ made ∧
          ∀ statement ∈ [own, child], ∀ write ∈ statement.writes,
            write.2.IsReference ∨ write.2.IsOperation ∨
              statement.IsChecked (Library.checkedWrites Library.repository) .full made write := by
  have hcompiled : ∃ own child next, Returns ((Library.checkedWrites Library.repository).chain
      "author" (.insert Library.newAuthor)) Progress.start ⟨"R", [own, child]⟩ next :=
    ⟨_, _, _, rfl⟩
  obtain ⟨own, child, next, hcompiled⟩ := hcompiled
  exact ⟨Library.accepted, own, child, next, hcompiled,
    written_values_pass Library.accepted hcompiled⟩

end WriteContext

end RelationalQuery
