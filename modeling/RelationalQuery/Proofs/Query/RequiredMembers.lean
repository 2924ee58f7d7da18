import RelationalQuery.Proofs.Json.DistinctNames
import RelationalQuery.Proofs.Query.Operations

/-!
# Required members under updates

A row has all required members, those of the objects in its columns included.  The data of an update
need not have them.  Where it patches an object key by key, the keys that it leaves out stay in the
row.  But an object that is taken as a whole replaces the one in the row, and with it the members
that it leaves out, since the validator checks it as a part of a record.  So rows keep their
required members exactly as far as these objects have theirs.

Main definitions:

- `Place.store` stores a value at a place of a row, and `Stores` does so for the writes of a
  statement.
- `Statement.Replaces` says what becomes of required members when a statement writes values.

Main results:

- `ObjectSchema.not_lacks_store`: a row lacks nothing after a value is stored that lacks nothing.
- `Stores.keeps`: the writes of checked data keep the required members of a row, if the objects that
  are taken as a whole have theirs.
- `WriteContext.update_required_members`: the statements of an update replace objects in this way.
- `WriteContext.update_drops_member`: an object that is taken as a whole drops a required member.
-/

namespace RelationalQuery

open Sql (Assignment Chain Expr Statement)

/-! ## Fields of places -/

/-- The field of a place: that of the column, or that of the key in the objects of the column. -/
def ObjectSchema.fieldAt? (schema : ObjectSchema) (place : Place) : Option Field :=
  match place.key? with
  | none => schema.get? place.column
  | some key => (schema.get? place.column).bind fun field =>
      field.objectSchema?.bind fun nested => nested.get? key

/-- A datum belongs to a place of a schema, and keys only to objects that can be patched. -/
structure Datum.Fits (schema : ObjectSchema) (datum : Datum) : Prop where
  field : datum.field? = schema.fieldAt? datum.place
  patched : datum.place.key?.isSome = true →
    ∃ field, schema.get? datum.place.column = some field ∧ field.isPlainObject = true

/-- The values of the entry of a column belong to its schema. -/
theorem ObjectSchema.data_fits (schema : ObjectSchema) (entry : String × Json) :
    ∀ datum ∈ schema.data entry, datum.Fits schema := by
  unfold ObjectSchema.data
  split
  · rename_i nested members hpatched
    obtain ⟨field, hknown, hpatched⟩ := Option.bind_eq_some_iff.1 hpatched
    obtain ⟨hplain, hnested, -⟩ := Field.patch?_eq_some_iff.1 hpatched
    rw [List.forall_mem_map]
    intro member _
    refine ⟨?_, fun _ => ⟨field, hknown, hplain⟩⟩
    simp [fieldAt?, hknown, hnested]
  · rw [List.forall_mem_singleton]
    exact ⟨rfl, fun hkey => by simp at hkey⟩

/-- The key of connected rows belongs to its column. -/
theorem ObjectSchema.keyDatum_fits (schema : ObjectSchema) (column : String) (key : Json) :
    (schema.keyDatum column key).Fits schema :=
  ⟨rfl, fun hkey => by simp [keyDatum] at hkey⟩

/-- The values for related rows belong to their schema. -/
theorem Relation.relatedData_fits (relation : Relation) (data : Members) :
    ∀ datum ∈ relation.relatedData data, datum.Fits relation.relatedSchema := by
  unfold relatedData
  split
  · exact List.forall_mem_nil _
  · split
    · split
      · exact List.forall_mem_singleton.2 (ObjectSchema.keyDatum_fits _ _ _)
      · exact List.forall_mem_nil _
    · intro datum hdatum
      obtain ⟨entry, -, hdatum⟩ := List.mem_flatMap.1 hdatum
      exact ObjectSchema.data_fits _ entry datum hdatum

/-- The values for the rows of a table belong to its schema. -/
theorem Table.ownData_fits (table : Table) (data : Members) :
    ∀ datum ∈ table.ownData data, datum.Fits table.schema := by
  intro datum hdatum
  rw [ownData, List.mem_append, List.mem_flatMap, List.mem_flatMap] at hdatum
  rcases hdatum with ⟨entry, -, hdatum⟩ | ⟨relation, -, hdatum⟩
  · exact ObjectSchema.data_fits _ entry datum hdatum
  · unfold Relation.ownData at hdatum
    split at hdatum
    · split at hdatum
      · simp at hdatum
      · rw [List.mem_singleton.1 hdatum]
        exact ObjectSchema.keyDatum_fits _ _ _
    · simp at hdatum

/-! ## Rows -/

/-- A row after a value is stored at a place: a key is set in the object that the column holds. -/
def Place.store (place : Place) (value : Json) (row : Members) : Members :=
  match place.key? with
  | none => row.insert place.column value
  | some key =>
    let object := ((row.get? place.column).bind Json.members?).getD []
    row.insert place.column (.object (object.insert key value))

/-- What an expression gives that stores a value: the value that it binds, and otherwise null or the
number of an operation. -/
def Sql.Expr.Gives (expr : Expr) (value : Json) : Prop :=
  match expr.bound? with
  | some bound => value = bound
  | none => value = .null ∨ ∃ number, value = .number number

/-- Writes turn a row into another one, one after the other. -/
inductive Stores : List (Place × Expr) → Members → Members → Prop
  | nil {row : Members} : Stores [] row row
  | cons {write : Place × Expr} {rest : List (Place × Expr)} {row last : Members} {value : Json}
      (gives : write.2.Gives value) (others : Stores rest (write.1.store value row) last) :
      Stores (write :: rest) row last

namespace ObjectSchema

variable {schema : ObjectSchema} {record : Members} {name : String} {value : Json} {place : Place}

/-- A record lacks nothing after a member is set that lacks nothing. -/
theorem not_lacks_insert (complete : ¬ schema.Lacks record)
    (given : ∀ field, schema.get? name = some field → ¬ field.Lacks value) :
    ¬ schema.Lacks (record.insert name value) := by
  rintro (⟨entry, hentry, hrequired, habsent⟩ | ⟨entry, hentry, field, hknown, hlacks⟩)
  · refine complete (.inl ⟨entry, hentry, hrequired, ?_⟩)
    rw [Members.contains, Members.get?_insert] at habsent
    split at habsent
    · simp at habsent
    · exact habsent
  · rcases Entries.mem_put hentry with rfl | hentry
    · exact given field hknown hlacks
    · exact complete (.inr ⟨entry, hentry, field, hknown, hlacks⟩)

/-- A row lacks nothing after a value is stored that lacks nothing.  A key is set in an object that
is there before. -/
theorem not_lacks_store (complete : ¬ schema.Lacks record)
    (held : place.key?.isSome = true → ∃ object, record.get? place.column = some (.object object))
    (given : ∀ field, schema.fieldAt? place = some field → ¬ field.Lacks value) :
    ¬ schema.Lacks (place.store value record) := by
  unfold Place.store
  split
  · rename_i hkey
    refine not_lacks_insert complete fun field hknown => given field ?_
    rw [fieldAt?, hkey]
    exact hknown
  · rename_i key hkey
    obtain ⟨object, hobject⟩ := held (by rw [hkey, Option.isSome_some])
    simp only [hobject, Option.bind_some, Json.members?, Option.getD_some]
    refine not_lacks_insert complete fun field hknown hlacks => ?_
    have hmem : (place.column, Json.object object) ∈ record := Entries.mem_of_lookup hobject
    obtain ⟨nested, hnested⟩ := hlacks.exists_schema
    rw [Field.lacks_object_iff hnested] at hlacks
    refine not_lacks_insert ?_ (fun inner hinner => given inner ?_) hlacks
    · rw [← Field.lacks_object_iff hnested]
      exact fun hbefore => complete (.inr ⟨_, hmem, field, hknown, hbefore⟩)
    · simp [fieldAt?, hkey, hknown, hnested, hinner]

end ObjectSchema

/-! ## Values that are stored -/

namespace Datum

variable {datum : Datum} {field : Field} {qualifier? : Option String} {expr : Expr} {value : Json}

/-- A value that is neither an operation nor null is bound as it is. -/
theorem IsStored.bound?_eq (h : datum.IsStored qualifier? expr) (plain : datum.operation? = none)
    (nonnull : datum.value.isNull = false) : expr.bound? = some datum.value := by
  rw [IsStored, plain] at h
  simp only [Expr.Holds, nonnull, Bool.false_eq_true, if_false] at h
  obtain ⟨_, rfl | rfl⟩ := h <;> rfl

/-- What stores a datum gives its value, or null, or a number. -/
theorem IsStored.gives (h : datum.IsStored qualifier? expr) (gives : expr.Gives value) :
    (value = datum.value ∧ datum.operation? = none) ∨ value = .null ∨
      ∃ number, value = .number number := by
  unfold Expr.Gives at gives
  split at gives
  · rename_i bound hbound
    rw [gives]
    exact .inl (h.bound hbound)
  · exact .inr gives

/-- An object that is taken as a whole has its required members. -/
def IsComplete (datum : Datum) : Prop :=
  ∀ field, datum.field? = some field → datum.IsTakenWhole field → ¬ field.Lacks datum.value

/-- A value of an object that can be patched is an object. -/
theorem IsChecked.exists_members (h : datum.IsChecked) (known : datum.field? = some field)
    (plain : field.isPlainObject = true) :
    datum.operation? = none ∧ ∃ members, datum.value = .object members := by
  obtain ⟨found, path, hfound, hvalid⟩ := h.valid
  obtain rfl : found = field := Option.some.inj (hfound.symm.trans known)
  simp only [Field.isPlainObject, Bool.and_eq_true, Bool.not_eq_true'] at plain
  obtain ⟨⟨hobject, -⟩, hnonnull⟩ := plain
  have hnumber : found.isNumber = false := by
    by_contra hnumber
    rw [Bool.not_eq_false] at hnumber
    simp [Field.isObject_of_isNumber hnumber] at hobject
  have hoperation : datum.operation? = none := by
    simp [operation?, known, Field.operation?_eq, operationMembers?, hnumber]
  rw [hoperation, Option.isSome_none, Bool.false_eq_true, false_or] at hvalid
  exact ⟨hoperation, Field.exists_members_of_validate hobject hnonnull hvalid⟩

/-- The value that is stored lacks nothing, if an object that is taken as a whole does not. -/
theorem IsChecked.not_lacks (h : datum.IsChecked) (complete : datum.IsComplete)
    (known : datum.field? = some field) (stored : datum.IsStored qualifier? expr)
    (gives : expr.Gives value) : ¬ field.Lacks value := by
  intro hlacks
  rcases stored.gives gives with ⟨rfl, hoperation⟩ | rfl | ⟨_, rfl⟩
  · exact complete field known (h.isTakenWhole_of_within known hoperation
      Field.objectFault_lacksMember hlacks) hlacks
  · simpa using hlacks.object_or_array
  · simpa using hlacks.object_or_array

end Datum

/-! ## Rows that keep their members -/

/-- A row has all required members, and an object in each column of which the data patches a key.  A
row that can be inserted has the members; only an optional column may be empty. -/
structure ObjectSchema.HasMembers (schema : ObjectSchema) (values : List Datum) (row : Members) :
    Prop where
  complete : ¬ schema.Lacks row
  held : ∀ datum ∈ values, datum.place.key?.isSome = true →
    ∃ object, row.get? datum.place.column = some (.object object)

section

variable {schema : ObjectSchema} {values : List Datum} {row last : Members}
  {qualifier? : Option String} {datum : Datum} {value : Json}

/-- A column that holds an object still does after a key or another object is stored in it. -/
theorem Place.exists_object_store {place : Place} {column : String}
    (held : ∃ object, row.get? column = some (.object object))
    (given : place.column = column → place.key? = none → ∃ object, value = .object object) :
    ∃ object, (place.store value row).get? column = some (.object object) := by
  unfold store
  split
  · rename_i hkey
    rw [Members.get?_insert]
    split
    · rename_i hcolumn
      obtain ⟨object, rfl⟩ := given hcolumn.symm hkey
      exact ⟨object, rfl⟩
    · exact held
  · rw [Members.get?_insert]
    split
    · exact ⟨_, rfl⟩
    · exact held

/-- A write of checked data keeps the members of a row. -/
theorem ObjectSchema.HasMembers.store {write : Place × Expr} (h : schema.HasMembers values row)
    (fits : ∀ datum ∈ values, datum.Fits schema) (checked : ∀ datum ∈ values, datum.IsChecked)
    (complete : ∀ datum ∈ values, datum.IsComplete) (mem : datum ∈ values)
    (written : datum.IsWritten qualifier? write) (gives : write.2.Gives value) :
    schema.HasMembers values (write.1.store value row) := by
  obtain ⟨hplace, hstored⟩ := written
  have hfield := (fits datum mem).field
  constructor
  · refine not_lacks_store h.complete ?_ ?_
    · rw [hplace]
      exact h.held datum mem
    · intro field hknown
      rw [hplace, ← hfield] at hknown
      exact (checked datum mem).not_lacks (complete datum mem) hknown hstored gives
  · intro other hother hkey
    refine Place.exists_object_store (h.held other hother hkey) ?_
    rw [hplace]
    intro hcolumn hwhole
    obtain ⟨field, hknown, hplain⟩ := (fits other hother).patched hkey
    rw [← hcolumn] at hknown
    have hknown : datum.field? = some field := by
      rw [hfield, fieldAt?, hwhole]
      exact hknown
    obtain ⟨hoperation, members, hmembers⟩ := (checked datum mem).exists_members hknown hplain
    have hbound := hstored.bound?_eq hoperation (by rw [hmembers]; rfl)
    rw [Expr.Gives, hbound] at gives
    exact ⟨members, gives.trans hmembers⟩

/-- The writes of checked data keep the members of a row. -/
theorem Stores.keeps {writes : List (Place × Expr)} (stores : Stores writes row last)
    (h : schema.HasMembers values row) (fits : ∀ datum ∈ values, datum.Fits schema)
    (checked : ∀ datum ∈ values, datum.IsChecked)
    (complete : ∀ datum ∈ values, datum.IsComplete)
    (written : ∀ write ∈ writes, ∃ datum ∈ values, datum.IsWritten qualifier? write) :
    schema.HasMembers values last := by
  induction stores with
  | nil => exact h
  | cons gives _ ih =>
    rw [List.forall_mem_cons] at written
    obtain ⟨⟨datum, hdatum, hwritten⟩, hothers⟩ := written
    exact ih (h.store fits checked complete hdatum hwritten gives) hothers

end

/-! ## Compiled updates -/

/-- A statement writes the values of data to rows of a schema. -/
structure Sql.Statement.Replaces (statement : Statement) (schema : ObjectSchema)
    (values : List Datum) : Prop where
  /-- What is bound lacks a member only if the data takes it as a whole. -/
  lacking : ∀ assignment ∈ statement.assignments, ∀ write ∈ assignment.writes,
    ∃ datum ∈ values, ∃ field, datum.place = write.1 ∧ datum.field? = some field ∧
      ∀ value, write.2.bound? = some value → field.Lacks value →
        value = datum.value ∧ datum.IsTakenWhole field
  /-- What the data gives is bound as it is, whatever it lacks. -/
  given : ∀ datum ∈ values, datum.operation? = none → datum.value.isNull = false →
    ∃ assignment ∈ statement.assignments, ∃ write ∈ assignment.writes, write.1 = datum.place ∧
      write.2.bound? = some datum.value
  /-- Rows keep their members, if all objects that are taken as a whole have theirs. -/
  keeps : ∀ row last, Stores (statement.assignments.flatMap Assignment.writes) row last →
    (∀ datum ∈ values, datum.IsComplete) → schema.HasMembers values row → ¬ schema.Lacks last

/-- Checked data is written in this way. -/
theorem Sql.Assignment.Write.replaces {statement : Statement} {schema : ObjectSchema}
    {values : List Datum} {qualifier? : Option String}
    (h : Assignment.Write statement.assignments qualifier? values)
    (fits : ∀ datum ∈ values, datum.Fits schema) (checked : ∀ datum ∈ values, datum.IsChecked) :
    statement.Replaces schema values where
  lacking := by
    intro assignment hassignment write hwrite
    obtain ⟨datum, hdatum, hplace, hstored⟩ := h.written assignment hassignment write hwrite
    obtain ⟨field, _, hfield, -⟩ := (checked datum hdatum).valid
    refine ⟨datum, hdatum, field, hplace.symm, hfield, ?_⟩
    intro value hbound hlacks
    obtain ⟨rfl, hoperation⟩ := hstored.bound hbound
    exact ⟨rfl, (checked datum hdatum).isTakenWhole_of_within hfield hoperation
      Field.objectFault_lacksMember hlacks⟩
  given := by
    intro datum hdatum hoperation hnonnull
    obtain ⟨write, hwrite, hplace, hstored⟩ := exists_mem_of_forall₂ h.each.flip hdatum
    obtain ⟨assignment, hassignment, hwrite⟩ := List.mem_flatMap.1 hwrite
    exact ⟨assignment, hassignment, write, hwrite, hplace, hstored.bound?_eq hoperation hnonnull⟩
  keeps := by
    intro row last stores complete hrow
    have hwritten : ∀ write ∈ statement.assignments.flatMap Assignment.writes,
        ∃ datum ∈ values, datum.IsWritten qualifier? write :=
      fun _ hwrite => exists_mem_of_forall₂ h.each hwrite
    exact (stores.keeps hrow fits checked complete hwritten).complete

namespace WriteContext

variable {context : WriteContext} {s t : Progress}

/-- The statements of a compiled update replace objects only by values of its data, as they are
given.  Rows keep their required members exactly as far as these values have theirs. -/
theorem update_required_members {table : String} {data : Json}
    {filter? select? include? : Option Json} {chain : Chain}
    (checked : context.validator = Validator.ofSchema)
    (compiled : Returns (context.update table data filter? select? include?) s chain t) :
    ∃ info members condition? main steps selections,
      context.repository.table? table = some info ∧ data = .object members ∧
      chain.statements = main :: steps ++ selections ∧
      context.UpdateParts info members condition? (select?.isSome || include?.isSome)
        (chain.nameAt 0) main steps selections ∧
      main.Replaces info.schema (info.ownData members) ∧
      List.Forall₂ (fun relation step =>
        Statement.Replaces step relation.relatedSchema (relation.relatedData members))
          (info.relations.filter (·.changesRows members)) steps := by
  obtain ⟨info, members, plan, _, condition?, main, steps, selections, hknown, rfl, hplan,
    hstatements, hparts⟩ := parts_of_update compiled
  have hchecked := alterationPlan_checked checked hplan
  refine ⟨info, members, condition?, main, steps, selections, hknown, rfl, hstatements, hparts,
    ?_, ?_⟩
  · refine hparts.own.write.replaces (info.ownData_fits members) fun datum hdatum => ?_
    exact hchecked datum (List.mem_append_left _ hdatum)
  · have hdata : ∀ relation ∈ info.relations.filter (·.changesRows members),
        ∀ datum ∈ relation.relatedData members, datum.IsChecked := by
      intro relation hrelation datum hdatum
      refine hchecked datum (List.mem_append_right _ ?_)
      exact List.mem_flatMap.2 ⟨relation, (List.mem_filter.1 hrelation).1, hdatum⟩
    refine ((List.forall₂_and_left _ _).2 ⟨hdata, hparts.related⟩).imp ?_
    rintro relation step ⟨hrelated, hwrites⟩
    exact hwrites.write.replaces (relation.relatedData_fits members) hrelated

end WriteContext

/-! ## A rating that is replaced -/

namespace Library

/-- A rating of a book, with its stars and the number of votes. -/
def scoreField : Field := .ofKind (.object ⟨[("stars", integer), ("votes", integer)]⟩)

/-- The columns of books with such a rating among their details. -/
def scoredSchema : ObjectSchema :=
  ⟨[("details", .ofKind (.object ⟨[("rating", scoreField)]⟩)), ("id", integer)]⟩

/-- Books with such a rating among their details. -/
def scoredBook : Table := ⟨"book", scoredSchema, none, []⟩

/-- Books with such a rating among their details, and nothing else. -/
def scored : Repository := ⟨[scoredBook]⟩

theorem scored_accepted : scored.Accepted := ⟨[⟨"book", scoredSchema, [], []⟩], rfl⟩

/-- Three stars from ten votes. -/
def threeStars : Json :=
  .object [("stars", Json.ofUInt64 3), ("votes", Json.ofUInt64 10)]

/-- Five stars, without a number of votes. -/
def fiveStars : Json := .object [("stars", Json.ofUInt64 5)]

/-- A score without votes lacks a member. -/
theorem fiveStars_lacks : scoreField.Lacks fiveStars :=
  .here ⟨_, _, rfl, rfl, ("votes", integer), by simp, rfl, rfl⟩

/-- A book with a rating. -/
def ratedRow (rating : Json) : Members :=
  [("details", .object [("rating", rating)]), ("id", Json.ofUInt64 1)]

/-- So does a row that holds it. -/
theorem ratedRow_lacks : scoredSchema.Lacks (ratedRow fiveStars) := by
  refine .inr ⟨_, List.mem_cons_self, _, rfl, ?_⟩
  exact .member rfl List.mem_cons_self rfl fiveStars_lacks

/-- Another rating for a book. -/
def rerated (rating : Json) : Members := [("details", .object [("rating", rating)])]

end Library

namespace WriteContext

/-- The update of the rating of a book replaces it as it should. -/
theorem update_required_members_library :
    (Library.checkedWrites Library.scored).validator = Validator.ofSchema ∧
      ∃ chain next, Returns ((Library.checkedWrites Library.scored).update "book"
          (.object (Library.rerated Library.threeStars)) none none none) Progress.start chain next ∧
        ∃ statement, chain.statements = [statement] ∧
          statement.Replaces Library.scoredSchema
            (Library.scoredBook.ownData (Library.rerated Library.threeStars)) := by
  have hchecked : (Library.checkedWrites Library.scored).validator = Validator.ofSchema := rfl
  refine ⟨hchecked, _, _, rfl, _, rfl, ?_⟩
  have hcompiled : Returns ((Library.checkedWrites Library.scored).update "book"
    (.object (Library.rerated Library.threeStars)) none none none) Progress.start _ _ := rfl
  obtain ⟨info, members, condition?, main, steps, selections, hinfo, hmembers, hstatements, -,
    hmain, -⟩ := update_required_members hchecked hcompiled
  obtain rfl : Library.scoredBook = info := Option.some.inj hinfo
  obtain rfl : Library.rerated Library.threeStars = members := Json.object.inj hmembers
  obtain rfl := (List.cons.inj hstatements).1
  exact hmain

/-- A rating without a number of votes replaces one with it, and a row that can be inserted becomes
one that lacks a required member. -/
theorem update_drops_member :
    Library.scored.Accepted ∧
      Library.scoredSchema.validate false (Library.ratedRow Library.threeStars) "book" .full =
        .ok () ∧
      ∃ chain next, Returns ((Library.checkedWrites Library.scored).update "book"
          (.object (Library.rerated Library.fiveStars)) none none none) Progress.start chain next ∧
        ∃ statement write, chain.statements = [statement] ∧
          statement.assignments.flatMap Assignment.writes = [write] ∧
          write.1 = ⟨"details", some "rating"⟩ ∧ write.2.bound? = some Library.fiveStars ∧
          Library.scoreField.Lacks Library.fiveStars ∧
          ∃ row, Stores [write] (Library.ratedRow Library.threeStars) row ∧
            Library.scoredSchema.Lacks row := by
  have hstores : Stores [(⟨"details", some "rating"⟩, .parameter (.json Library.fiveStars))]
      (Library.ratedRow Library.threeStars) (Library.ratedRow Library.fiveStars) := .cons rfl .nil
  refine ⟨Library.scored_accepted, rfl, _, _, rfl, _, _, rfl, rfl, rfl, rfl,
    Library.fiveStars_lacks, _, hstores, Library.ratedRow_lacks⟩

end WriteContext

end RelationalQuery
