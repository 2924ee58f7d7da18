import RelationalQuery.Proofs.Filter.WellScoped

/-!
# Declared keys of filters

In a filter over a table a key is a word of groups, the name of a relation or a column.  Below a
column, where predicates stand, it is a key that the schema declares there, an operator, or another
key of an extensible object.  A filter with any other key, at whatever depth, is not compiled.  What
stands below an operator is an operand, whose keys are free.

Main definitions:

- `AdmitsPredicate` and `AdmitsKey` say that the keys in an entry of a column, or of a key inside it,
  are ones of these.
- `Repository.AdmitsFilter` and `Repository.AdmitsEntry` say this of filters over tables.

Main results:

- `admits_of_predicates`: predicates of a column that are compiled have no other keys.
- `FilterContext.admits_of_condition`: neither has a filter that is compiled.
-/

namespace RelationalQuery

open Sql (ColumnRef Condition)

/-! ## Keys below columns -/

mutual

/-- The keys in an entry of a column, or of a key inside it, may stand there. -/
inductive AdmitsPredicate : Option Field → Json → Prop
  | plain {field? : Option Field} {value : Json} (members : value.members? = none) :
      AdmitsPredicate field? value
  | object {field? : Option Field} {members : Members}
      (each : ∀ member ∈ members, AdmitsKey field? member) :
      AdmitsPredicate field? (.object members)

/-- A key in an entry of a column is declared there, names an operator, or is another key of an
extensible object; operands may be any values. -/
inductive AdmitsKey : Option Field → String × Json → Prop
  | nested {field? : Option Field} {field : Field} {member : String × Json}
      (known : field?.bind (·.declared? member.1) = some field)
      (inner : AdmitsPredicate (some field) member.2) : AdmitsKey field? member
  | operator {field? : Option Field} {operator : FilterOperator} {member : String × Json}
      (undeclared : field?.bind (·.declared? member.1) = none)
      (named : operatorNamed? member.1 = some operator) : AdmitsKey field? member
  | extension {field? : Option Field} {member : String × Json}
      (extensible : field?.any Field.isDynamicObject = true)
      (undeclared : field?.bind (·.declared? member.1) = none) (unnamed : operatorNamed? member.1 = none)
      (inner : AdmitsPredicate none member.2) : AdmitsKey field? member

end

mutual

/-- The keys in an entry that is compiled may stand there. -/
theorem admits_of_predicates : ∀ {field? : Option Field} {column : ColumnRef} {path : String}
    {value : Json} {conditions : List Condition},
    predicates field? column path value = .ok conditions → AdmitsPredicate field? value
  | _, _, _, .object members, _, h => by
    rw [predicates] at h
    exact .object (admits_of_memberPredicates h)
  | _, _, _, .null, _, _ | _, _, _, .bool _, _, _ | _, _, _, .number _, _, _
  | _, _, _, .string _, _, _ | _, _, _, .array _, _, _ => .plain rfl

theorem admits_of_memberPredicates : ∀ {field? : Option Field} {column : ColumnRef}
    {path : String} {members : Members} {conditions : List Condition},
    memberPredicates field? column path members = .ok conditions →
      ∀ member ∈ members, AdmitsKey field? member
  | _, _, _, [], _, _ => List.forall_mem_nil _
  | field?, column, path, (key, value) :: rest, _, h => by
    rw [memberPredicates] at h
    have hreading := keyReading_of_ofKey field? key
    cases hkey : PredicateKey.ofKey field? key with
    | nested child? =>
      simp only [hkey, bind_eq_ok_iff, pure_eq_ok_iff] at h
      obtain ⟨first, hfirst, others, hothers, -⟩ := h
      have hinner := admits_of_predicates hfirst
      refine List.forall_mem_cons.2 ⟨?_, admits_of_memberPredicates hothers⟩
      rw [hkey] at hreading
      cases hreading with
      | declared known => exact .nested known hinner
      | extension undeclared unnamed extensible =>
        exact .extension extensible undeclared unnamed hinner
    | operator operator =>
      simp only [hkey, bind_eq_ok_iff, pure_eq_ok_iff] at h
      obtain ⟨_, -, _, -, others, hothers, -⟩ := h
      refine List.forall_mem_cons.2 ⟨?_, admits_of_memberPredicates hothers⟩
      rw [hkey] at hreading
      cases hreading with
      | operator undeclared named => exact .operator undeclared named
    | unexpected | unknownOperator => simp [hkey, bind, Except.bind] at h

end

/-! ## Keys of filters -/

mutual

/-- A filter over a table is an object, and its keys may stand there. -/
inductive Repository.AdmitsFilter (repository : Repository) : Table → Json → Prop
  | object {table : Table} {members : Members}
      (each : ∀ member ∈ members, AdmitsEntry repository table member) :
      AdmitsFilter repository table (.object members)

/-- A key in a filter over a table is a word of groups above filters over the table, a relation
above null or a filter over the related table, or a column. -/
inductive Repository.AdmitsEntry (repository : Repository) : Table → String × Json → Prop
  | group {table : Table} {key : String} {value : Json} (word : IsGroupWord key)
      (inner : AdmitsFilter repository table value) : AdmitsEntry repository table (key, value)
  | groups {table : Table} {key : String} {items : List Json} (word : key = "AND" ∨ key = "OR")
      (each : ∀ item ∈ items, AdmitsFilter repository table item) :
      AdmitsEntry repository table (key, .array items)
  | unrelated {table : Table} {key : String} {relation : Relation} (word : ¬ IsGroupWord key)
      (named : table.relation? key = some relation) : AdmitsEntry repository table (key, .null)
  | related {table related : Table} {key : String} {relation : Relation} {value : Json}
      (word : ¬ IsGroupWord key) (named : table.relation? key = some relation)
      (known : repository.table? relation.relatedTable = some related)
      (inner : AdmitsFilter repository related value) : AdmitsEntry repository table (key, value)
  | column {table : Table} {key : String} {field : Field} {value : Json}
      (word : ¬ IsGroupWord key) (unnamed : table.relation? key = none)
      (known : table.schema.get? key = some field) (inner : AdmitsPredicate (some field) value) :
      AdmitsEntry repository table (key, value)

end

/-- The keys in a part of a filter over a table may stand there. -/
def FilterTask.Admitted (repository : Repository) (table : Table) : FilterTask → Prop
  | .members entries => ∀ member ∈ entries, repository.AdmitsEntry table member
  | .entry key _ value => repository.AdmitsEntry table (key, value)
  | .items filters => ∀ filter ∈ filters, repository.AdmitsFilter table filter

namespace FilterContext

variable {context : FilterContext} {table : Table}

/-- The keys in a part of a filter that has a derivation may stand there. -/
theorem Derives.admitted {scope? : Option String} {task : FilterTask}
    {conditions : List Condition} {n m : Nat}
    (h : context.Derives table scope? task n conditions m) (keyed : task.Keyed table) :
    task.Admitted context.repository table := by
  induction h with
  | nil | noItems => exact List.forall_mem_nil _
  | cons _ _ ihHead ihTail => exact List.forall_mem_cons.2 ⟨ihHead rfl, ihTail trivial⟩
  | group _ ih =>
    cases Table.readsAs_iff.2 keyed with
    | conjunction word => exact .groups (.inl word) (ih trivial)
    | disjunction word => exact .groups (.inr word) (ih trivial)
  | single _ ih =>
    cases Table.readsAs_iff.2 keyed with
    | conjunction word => exact .group (.inl word) (.object (ih trivial))
    | disjunction word => exact .group (.inr (.inl word)) (.object (ih trivial))
  | negation _ ih =>
    cases Table.readsAs_iff.2 keyed with
    | negation word => exact .group (.inr (.inr word)) (.object (ih trivial))
  | unrelated =>
    cases Table.readsAs_iff.2 keyed with
    | relation word named => exact .unrelated word named
  | related known _ ih =>
    cases Table.readsAs_iff.2 keyed with
    | relation word named => exact .related word named known (.object (ih trivial))
  | column hpredicates =>
    simp only [Table.columnConditions, bind_eq_ok_iff] at hpredicates
    obtain ⟨field, hfield, hpredicates⟩ := hpredicates
    cases Table.readsAs_iff.2 keyed with
    | column word unnamed =>
      exact .column word unnamed (ObjectSchema.get?_of_field hfield)
        (admits_of_predicates hpredicates)
  | item _ _ ihHead ihTail =>
    exact List.forall_mem_cons.2 ⟨.object (ihHead trivial), ihTail trivial⟩

/-- The keys of a filter that is compiled may stand there. -/
theorem admits_of_condition {filter : Json} {scope? : Option String} {path : String}
    {condition? : Option Condition} {n m : Nat}
    (h : Returns (context.condition filter table scope? path) n condition? m) :
    context.repository.AdmitsFilter table filter := by
  obtain ⟨members, conditions, rfl, -, hderives⟩ := derives_of_condition h
  exact .object (hderives.admitted trivial)

end FilterContext

end RelationalQuery
