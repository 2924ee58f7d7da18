import RelationalQuery.Proofs.Filter.DeclaredKeys
import RelationalQuery.Proofs.Projection.Acceptance

/-!
# Declared keys of orders and of related rows

The keys of an order are columns of its table.  Two trees reach the rows of relations, each with
options of its own, and the filters and orders among these are as strict as those of a query.

Main definitions:

- `Table.AdmitsOrder` says that the keys of an order are columns, and have directions.
- `Repository.ReachesRows` says that two trees reach the rows of a relation with options.
- `Repository.AdmitsOptions` says that the keys of the filter and of the order among options may
  stand there.

Main results:

- `Table.admits_of_orderTerms`: an order that is compiled has columns and directions and nothing else.
- `ProjectionContext.admits_of_reachesRows`: trees that are accepted reach no filter and no order
  with other keys.
-/

namespace RelationalQuery

open Sql (Direction OrderTerm)

/-! ## Orders -/

/-- A key of an order is a column, with a direction in any letter case. -/
def Table.AdmitsDirection (table : Table) (member : String × Json) : Prop :=
  table.schema.contains member.1 = true ∧
    ∃ text, member.2 = .string text ∧ (text.toLower = "asc" ∨ text.toLower = "desc")

/-- An order is an object or an array of objects, whose keys are columns with directions. -/
inductive Table.AdmitsOrder (table : Table) : Json → Prop
  | single {members : Members} (each : ∀ member ∈ members, table.AdmitsDirection member) :
      table.AdmitsOrder (.object members)
  | several {objects : List Members}
      (each : ∀ members ∈ objects, ∀ member ∈ members, table.AdmitsDirection member) :
      table.AdmitsOrder (.array (objects.map Json.object))

namespace Table

variable {table : Table} {scope? : Option String} {path : String} {value : Json}

theorem admits_of_orderTerm {member : String × Json} {term : OrderTerm}
    (h : orderTerm table scope? path member = .ok term) : table.AdmitsDirection member := by
  simp only [orderTerm, bind_eq_ok_iff] at h
  obtain ⟨field, hfield, h⟩ := h
  refine ⟨ObjectSchema.contains_of_field hfield, ?_⟩
  obtain ⟨key, value⟩ := member
  cases value with
  | string text =>
    refine ⟨text, rfl, ?_⟩
    by_contra hother
    rw [not_or] at hother
    simp [Json.string?, Direction.ofText?, hother] at h
  | null | bool _ | number _ | array _ | object _ => simp [Json.string?] at h

/-- The objects of an order are those of an array, or the order is the only one. -/
theorem objects_of_orderObjects {objects : List Members}
    (h : orderObjects value path = .ok objects) :
    (∃ members, value = .object members ∧ objects = [members]) ∨
      value = .array (objects.map Json.object) := by
  cases value with
  | object members =>
    rw [orderObjects, Except.ok.injEq] at h
    exact .inl ⟨members, rfl, h.symm⟩
  | array items =>
    right
    rw [orderObjects] at h
    have hitems : List.Forall₂ Eq items (objects.map Json.object) := by
      rw [List.forall₂_map_right_iff]
      refine (forall₂_of_mapM_eq_ok h).imp fun item members hitem => ?_
      cases item with
      | object others =>
        simp only [Json.members?, Except.ok.injEq] at hitem
        rw [hitem]
      | null | bool _ | number _ | string _ | array _ => simp [Json.members?] at hitem
    rw [List.forall₂_eq_eq_eq] at hitems
    rw [hitems]
  | null | bool _ | number _ | string _ => simp [orderObjects] at h

/-- An order that is compiled has columns and directions and nothing else. -/
theorem admits_of_orderTerms {terms : List OrderTerm}
    (h : orderTerms value table scope? path = .ok terms) : table.AdmitsOrder value := by
  simp only [orderTerms, bind_eq_ok_iff] at h
  obtain ⟨objects, hobjects, h⟩ := h
  have heach : ∀ members ∈ objects, ∀ member ∈ members, table.AdmitsDirection member := by
    intro members hmembers member hmember
    have hmem := List.mem_flatten_of_mem hmembers hmember
    obtain ⟨_, -, hterm⟩ := exists_mem_of_forall₂ (forall₂_of_mapM_eq_ok h).flip hmem
    exact admits_of_orderTerm hterm
  rcases objects_of_orderObjects hobjects with ⟨members, rfl, rfl⟩ | rfl
  · exact .single (List.forall_mem_singleton.1 heach)
  · exact .several heach

theorem admits_of_orderTerms? {value? : Option Json} {terms : List OrderTerm}
    (h : orderTerms? value? table scope? path = .ok terms) :
    ∀ order ∈ value?, table.AdmitsOrder order := by
  rintro order rfl
  exact admits_of_orderTerms h

end Table

/-! ## Related rows -/

/-- Two trees over a table reach the rows of a relation with an entry of options: they ask for the
relation themselves, or the trees that they give to a relation do. -/
inductive Repository.ReachesRows (repository : Repository) (relation : Relation)
    (options? : Option Json) : Table → Option Json → Option Json → Prop
  | here {table : Table} {select? include? tree? : Option Json} {name : String}
      (named : table.relation? name = some relation)
      (requested : request? select? include? name = some (tree?, options?)) :
      ReachesRows repository relation options? table select? include?
  | inside {table related : Table} {select? include? tree? given? : Option Json} {name : String}
      {outer : Relation} (named : table.relation? name = some outer)
      (requested : request? select? include? name = some (tree?, given?))
      (known : repository.table? outer.relatedTable = some related)
      (inner : ReachesRows repository relation options? related
        (tree? <|> entryOption? given? "select") (entryOption? given? "include")) :
      ReachesRows repository relation options? table select? include?

/-- Without trees nothing is asked for. -/
theorem isProjected_of_request? {select? include? : Option Json} {name : String}
    {request : Option Json × Option Json} (h : request? select? include? name = some request) :
    (select?.isSome || include?.isSome) = true := by
  by_contra hnone
  obtain ⟨rfl, rfl⟩ : select? = none ∧ include? = none := by simpa using hnone
  cases h

/-- The keys of the filter among the options of a relation may stand there, and so may those of the
order if the rows are ordered. -/
def Repository.AdmitsOptions (repository : Repository) (relation : Relation) (isOrdered : Bool)
    (options? : Option Json) : Prop :=
  ∃ related, repository.table? relation.relatedTable = some related ∧
    (∀ filter ∈ entryOption? options? "where", repository.AdmitsFilter related filter) ∧
    (isOrdered = true → ∀ order ∈ entryOption? options? "order", related.AdmitsOrder order)

namespace ProjectionContext

variable {context : ProjectionContext} {table : Table} {select? include? : Option Json}
  {path : String}

/-- The options of a relation that is accepted. -/
theorem AcceptsRows.admitsOptions {relation : Relation} {isOrdered : Bool}
    {selection? included? : Option Json}
    (h : context.AcceptsRows relation isOrdered selection? included? path) :
    context.repository.AdmitsOptions relation isOrdered included? := by
  obtain ⟨related, hknown, -, -, hfilter, horder⟩ := h
  rw [IncludeOptions.ofEntry_eq] at hfilter horder
  refine ⟨related, hknown, fun filter hmem => ?_, fun hordered => ?_⟩
  · obtain ⟨_, _, _, _, hcompiled⟩ := hfilter filter hmem
    exact FilterContext.admits_of_condition hcompiled
  · obtain ⟨_, _, hterms⟩ := horder hordered
    exact Table.admits_of_orderTerms? hterms

/-- What accepted trees ask for of a relation is accepted. -/
theorem acceptsRows_of_request (h : context.Accepts select? include? table path) {name : String}
    {relation : Relation} {request : Option Json × Option Json}
    (named : table.relation? name = some relation)
    (requested : request? select? include? name = some request) :
    context.AcceptsRows relation true request.1 request.2 (joinPath path name) := by
  obtain ⟨_, _, _, _, hfields⟩ := h
  obtain ⟨-, -, hselected, hincluded⟩ := succeedsIff_entries.1 _ _ _ hfields
  rcases request?_cases.1 requested with
    ⟨value, hvalue, hshown, rfl⟩ | ⟨hnone, entry, hentry, rfl⟩
  · exact (hselected _ (Entries.mem_of_lookup hvalue)).2 relation named hshown
  · obtain ⟨hget, hshown⟩ := Option.filter_eq_some_iff.1 hentry
    have hnew : ¬ (entry = .bool false ∨
        (Json.membersOf select?).keys.contains name = true) := by
      rintro (hfalse | hnamed)
      · simp [hfalse] at hshown
      · exact Entries.lookup_eq_none_iff.1 hnone (List.contains_iff_mem.1 hnamed)
    obtain ⟨found, hfound, haccepted⟩ := hincluded _ (Entries.mem_of_lookup hget) hnew
    obtain rfl : found = relation := Option.some.inj (hfound.symm.trans named)
    exact haccepted

/-- Trees that are accepted reach no filter and no order with keys that may not stand there. -/
theorem admits_of_reachesRows {relation : Relation} {options? : Option Json}
    (h : context.repository.ReachesRows relation options? table select? include?)
    (accepts : context.Accepts select? include? table path) :
    context.repository.AdmitsOptions relation true options? := by
  induction h generalizing path with
  | here named requested => exact (acceptsRows_of_request accepts named requested).admitsOptions
  | inside named requested known _ ih =>
    obtain ⟨related, hrelated, -, htrees, -⟩ := acceptsRows_of_request accepts named requested
    rw [IncludeOptions.ofEntry_eq] at htrees
    obtain rfl := Option.some.inj (hrelated.symm.trans known)
    exact ih htrees

end ProjectionContext

end RelationalQuery
