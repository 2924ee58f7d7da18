import RelationalQuery.Proofs.Query.WriteSet
import RelationalQuery.Proofs.Validation

/-!
# Operations in the data of an update

A number of a row is changed by an operation, an object with the name of an operator.  An update
reads it as such where the number is a column, or a key of an object that is patched.  A value that
is not looked into is stored as it is: a key of connected rows, and an object that is taken as a
whole.  The validator of schemas admits operations inside these as well.

Main definitions:

- `Datum.IsTakenWhole` says that the value of a datum is not looked into.
- `Datum.IsChecked` says that the value of a datum passed the validator of schemas.
- `Expr.bound?` is the value that an expression binds as a parameter.

Main results:

- `WriteContext.alterationPlan_checked`: the data of a compiled plan passed the validator.
- `WriteContext.update_operations`: an object for a number becomes an operation, unless it is part
  of a value that is taken as a whole.
- `WriteContext.update_binds_operation`: inside such a value an operation is stored as an object.
-/

namespace RelationalQuery

open Sql (Assignment Chain Condition Expr Statement)

/-! ## Values that are bound -/

/-- The value that an expression binds as a parameter. -/
def Sql.Expr.bound? : Expr → Option Json
  | .parameter bound => some bound.value
  | .cast (.parameter bound) _ => some bound.value
  | _ => none

/-- The assignments of a statement to columns of existing rows. -/
def Sql.Statement.assignments : Statement → List Assignment
  | .update s => s.assignments
  | .select _ | .insert _ | .delete _ => []

namespace Datum

variable {datum : Datum} {field : Field} {qualifier? : Option String} {expr : Expr} {value : Json}

/-- The value of a datum is stored without a look inside: it is a key of connected rows, or an
object that is not patched key by key. -/
def IsTakenWhole (datum : Datum) (field : Field) : Prop :=
  datum.connects = true ∨
    field.isObject = true ∧ (datum.place.key? = none → field.isPlainObject = false)

/-- The value of a datum passed the validator of schemas, unless it is an operation, and it is not
an object that has to be patched. -/
structure IsChecked (datum : Datum) : Prop where
  valid : ∃ field path, datum.field? = some field ∧
    (datum.operation?.isSome = true ∨
      field.validate datum.value path .partialRecord = .ok ())
  unpatched : datum.connects = false → datum.place.key? = none →
    ∀ field ∈ datum.field?, field.patch? datum.value = none

/-- What is bound is the value itself, and it is no operation. -/
theorem IsStored.bound (h : datum.IsStored qualifier? expr) (bound : expr.bound? = some value) :
    value = datum.value ∧ datum.operation? = none := by
  unfold IsStored at h
  split at h
  · obtain ⟨_, _, _, -, -, -, rfl⟩ := h
    simp [Expr.bound?] at bound
  · rename_i hnone
    refine ⟨?_, hnone⟩
    unfold Expr.Holds at h
    split at h
    · rcases h with rfl | rfl <;> simp [Expr.bound?, Sql.Patch.jsonNull] at bound
    · obtain ⟨_, rfl | rfl⟩ := h <;> simpa [Expr.bound?, eq_comm] using bound

/-- A checked object of a number or an object, that is no operation, is taken as a whole. -/
theorem IsChecked.isTakenWhole {members : Members} (h : datum.IsChecked)
    (known : datum.field? = some field) (stored : datum.operation? = none)
    (kind : field.isNumber = true ∨ field.isObject = true)
    (object : datum.value = .object members) : datum.IsTakenWhole field := by
  have hunpatched := h.unpatched
  cases hconnects : datum.connects with
  | true => exact .inl hconnects
  | false =>
    have hoperation : operationMembers? field datum.value = none :=
      (operation?_eq hconnects known).symm.trans stored
    -- An object for a number would be an operation, and one that can be patched would be patched.
    have hobject : field.isObject = true := by
      refine kind.resolve_left fun hnumber => ?_
      simp [operationMembers?, hnumber, object, Json.members?] at hoperation
    refine .inr ⟨hobject, fun hkey => ?_⟩
    by_contra hplain
    rw [Bool.not_eq_false] at hplain
    obtain ⟨nested, hnested⟩ := Option.isSome_iff_exists.1 hobject
    have hpatched := Field.patch?_eq_some_iff.2 ⟨hplain, hnested, object⟩
    rw [hunpatched hconnects hkey field known] at hpatched
    simp at hpatched

/-- A checked value with a fault inside, that is no operation, is taken as a whole. -/
theorem IsChecked.isTakenWhole_of_within {fault : Field → Json → Prop} (h : datum.IsChecked)
    (known : datum.field? = some field) (stored : datum.operation? = none)
    (faulty : Field.ObjectFault fault) (within : field.Within fault datum.value) :
    datum.IsTakenWhole field := by
  obtain ⟨found, path, hfound, hvalid⟩ := h.valid
  obtain rfl : found = field := Option.some.inj (hfound.symm.trans known)
  rw [stored, Option.isSome_none, Bool.false_eq_true, false_or] at hvalid
  obtain ⟨hkind, members, hmembers⟩ := faulty.of_within hvalid within
  exact h.isTakenWhole known stored hkind hmembers

end Datum

/-- The values that the data gives for the rows of a table and for related rows. -/
def Table.changes (table : Table) (data : Members) : List Datum :=
  table.ownData data ++ table.relations.flatMap fun relation => relation.relatedData data

/-! ## Data that passed the validator -/

namespace WriteContext

variable {context : WriteContext} {schema : ObjectSchema} {path : String}
  {qualifier? : Option String} {table : Table} {data : Members} {relation : Relation}
  {plan next : AlterationPlan} {s t : Progress}

/-- A record with a single member that passed the validator of schemas has a valid member. -/
theorem valid_of_validate (checked : context.validator = Validator.ofSchema) {key : String}
    {value : Json} {field : Field} {u : Unit} (known : schema.get? key = some field)
    (h : Returns (context.validate [(key, value)] schema path .partialRecord) s u t) :
    field.validate value (joinPath path key) .partialRecord = .ok () := by
  have hvalid := (returns_validate h).1
  rw [checked] at hvalid
  exact ObjectSchema.validate_member hvalid (List.mem_singleton_self _) known

/-- The value of a key of a patch passed the validator. -/
theorem patchExpr_checked (checked : context.validator = Validator.ofSchema) {column : String}
    {entry : String × Json} {expr : Expr}
    (h : Returns (context.patchExpr column schema path qualifier? entry) s expr t) :
    Datum.IsChecked ⟨⟨column, some entry.1⟩, schema.get? entry.1, entry.2, false⟩ := by
  obtain ⟨field, hknown, hcases⟩ := patchExpr_cases h
  refine ⟨⟨field, joinPath path entry.1, hknown, ?_⟩, fun _ hkey => by simp at hkey⟩
  rcases hcases with ⟨members, hmembers, -, -⟩ | ⟨-, hvalid, -⟩
  · simp [Datum.operation?, hknown, Field.operation?_eq, hmembers]
  · exact .inr (valid_of_validate checked hknown hvalid)

/-- The values of the entry of a column passed the validator. -/
theorem fieldAssignments_checked (checked : context.validator = Validator.ofSchema)
    {entry : String × Json} {assignments : List Assignment}
    (h : Returns (context.fieldAssignments schema path qualifier? entry) s assignments t) :
    ∀ datum ∈ schema.data entry, datum.IsChecked := by
  obtain ⟨field, hknown, hcases⟩ := fieldAssignments_cases h
  rw [ObjectSchema.data, hknown, Option.bind_some, Field.patch?_eq]
  rcases hcases with ⟨members, expr, hoperation, -, -, -⟩ |
    ⟨nested, members, -, hpatched, hassignments⟩ | ⟨expr, -, hpatched, hvalid, -, -⟩
  · rw [patched?_of_operation hoperation, List.forall_mem_singleton]
    refine ⟨⟨field, path, rfl, .inl ?_⟩, ?_⟩
    · simp [Datum.operation?, Field.operation?_eq, hoperation]
    · rintro - - _ ⟨⟩
      rw [Field.patch?_eq]
      exact patched?_of_operation hoperation
  · rw [hpatched, List.forall_mem_map]
    intro member hmember
    obtain ⟨entries, _, -, hexprs, -⟩ := patchAssignments_cases hassignments
    obtain ⟨_, -, -, _, _, hexpr⟩ := exists_mem_of_forall₂ hexprs.flip hmember
    exact patchExpr_checked checked hexpr
  · rw [hpatched, List.forall_mem_singleton]
    refine ⟨⟨field, _, rfl, .inr (valid_of_validate checked hknown hvalid)⟩, ?_⟩
    rintro - - _ ⟨⟩
    rw [Field.patch?_eq]
    exact hpatched

/-- The key that connects rows passed the validator. -/
theorem keyDatum_checked (checked : context.validator = Validator.ofSchema) {payload : Members}
    {column : String} {key : Json} {field : Field} {u : Unit}
    (given : Members.get? payload column = some key) (known : schema.get? column = some field)
    (h : Returns (context.validate payload schema path .partialRecord) s u t) :
    (schema.keyDatum column key).IsChecked := by
  have hvalid := (returns_validate h).1
  rw [checked] at hvalid
  have hmem : (column, key) ∈ payload := Entries.mem_of_lookup given
  constructor
  · exact ⟨field, joinPath path column, known,
      .inr (ObjectSchema.validate_member hvalid hmem known)⟩
  · intro hconnects
    simp [ObjectSchema.keyDatum] at hconnects

/-- The key that the entry of a relation connects rows by passed the validator. -/
theorem connect_checked (checked : context.validator = Validator.ofSchema) {payload : Members}
    {key : Json} (given : relation.payload? data = some payload)
    (connected : relation.connected? payload = some key)
    (h : Returns (context.connect table path plan relation payload key) s next t) :
    ∀ datum ∈ relation.ownData table.schema data ++ relation.relatedData data,
      datum.IsChecked := by
  simp only [Relation.ownData, Relation.relatedData, given, connected, Option.bind_some]
  rw [Relation.connected?] at connected
  rcases connect_cases h with ⟨hinverse, field, _, hvalid, hknown, -⟩ |
    ⟨howned, field, _, hvalid, hknown, -⟩
  · rw [Relation.linkColumn_of_inverse hinverse] at connected
    rw [if_pos hinverse, if_pos hinverse, List.nil_append, List.forall_mem_singleton]
    exact keyDatum_checked checked connected hknown hvalid
  · rw [Relation.linkColumn_of_owned howned] at connected
    rw [howned, if_neg Bool.false_ne_true, if_neg Bool.false_ne_true, List.append_nil,
      List.forall_mem_singleton]
    exact keyDatum_checked checked connected hknown hvalid

/-- The values of the entry of a relation passed the validator. -/
theorem addRelation_checked (checked : context.validator = Validator.ofSchema)
    (h : Returns (context.addRelation table data plan relation) s next t) :
    ∀ datum ∈ relation.ownData table.schema data ++ relation.relatedData data,
      datum.IsChecked := by
  rcases addRelation_cases h with ⟨habsent, -, -⟩ |
    ⟨payload, hgiven, ⟨key, hkey, hconnect⟩ | ⟨hkey, assignments, hassignments, -⟩⟩
  · simp [Relation.ownData, Relation.relatedData, habsent]
  · exact connect_checked checked hgiven hkey hconnect
  · simp only [Relation.ownData, Relation.relatedData, hgiven, hkey, Option.bind_some,
      List.nil_append]
    intro datum hdatum
    obtain ⟨entry, hentry, hdatum⟩ := List.mem_flatMap.1 hdatum
    obtain ⟨_, _, _, hentry⟩ := returns_of_mem_mapM hassignments hentry
    exact fieldAssignments_checked checked hentry datum hdatum

/-- The values that the data gives for a table and for related rows passed the validator. -/
theorem alterationPlan_checked (checked : context.validator = Validator.ofSchema)
    (h : Returns (context.alterationPlan table data) s plan t) :
    ∀ datum ∈ table.changes data, datum.IsChecked := by
  simp only [alterationPlan, returns_bind] at h
  obtain ⟨own, r, hown, hsteps⟩ := h
  have hrelated : ∀ relation ∈ table.relations,
      ∀ datum ∈ relation.ownData table.schema data ++ relation.relatedData data,
        datum.IsChecked := by
    intro relation hrelation
    obtain ⟨_, _, _, _, hstep⟩ := returns_of_mem_foldlM hsteps hrelation
    exact addRelation_checked checked hstep
  intro datum hdatum
  simp only [Table.changes, Table.ownData, Table.ownMembers_eq, List.mem_append,
    List.mem_flatMap] at hdatum
  rcases hdatum with (⟨entry, hentry, hdatum⟩ | ⟨relation, hrelation, hdatum⟩) |
    ⟨relation, hrelation, hdatum⟩
  · obtain ⟨_, _, _, hentry⟩ := returns_of_mem_mapM hown hentry
    exact fieldAssignments_checked checked hentry datum hdatum
  · exact hrelated relation hrelation datum (List.mem_append_left _ hdatum)
  · exact hrelated relation hrelation datum (List.mem_append_right _ hdatum)

end WriteContext

/-! ## Compiled updates -/

section

variable {statement : Statement} {table : String} {condition? : Option Condition}
  {main : String} {data : Members} {relation : Relation}

/-- The assignments of a main statement write the values of the data. -/
theorem Sql.Statement.WritesRows.write {values : List Datum}
    (h : statement.WritesRows table condition? values) :
    Assignment.Write statement.assignments none values := by
  cases h with
  | update _ write => exact write
  | select empty =>
    rw [empty]
    exact .nil

/-- The assignments of a step write the values of the entry of its relation. -/
theorem Sql.Statement.WritesRelated.write (h : statement.WritesRelated main data relation) :
    Assignment.Write statement.assignments (some relation.relatedTable)
      (relation.relatedData data) := by
  obtain ⟨write⟩ := h
  exact write

end

namespace WriteContext

variable {context : WriteContext} {s t : Progress}

/-- What the statements of an update write are values of the data. -/
theorem UpdateParts.written {info : Table} {members : Members} {condition? : Option Condition}
    {isProjected : Bool} {name : String} {main : Statement} {steps selections : List Statement}
    (parts : context.UpdateParts info members condition? isProjected name main steps selections) :
    ∀ statement ∈ main :: steps ++ selections, ∀ assignment ∈ statement.assignments,
      ∀ write ∈ assignment.writes,
        ∃ datum ∈ info.changes members, ∃ qualifier?, datum.IsWritten qualifier? write := by
  intro statement hstatement assignment hassignment write hwrite
  rw [List.cons_append, List.mem_cons, List.mem_append] at hstatement
  rcases hstatement with rfl | hstep | hselection
  · obtain ⟨datum, hdatum, hwritten⟩ := parts.own.write.written assignment hassignment write hwrite
    exact ⟨datum, List.mem_append_left _ hdatum, none, hwritten⟩
  · obtain ⟨relation, hrelation, hwrites⟩ := exists_mem_of_forall₂ parts.related hstep
    obtain ⟨datum, hdatum, hwritten⟩ := hwrites.write.written assignment hassignment write hwrite
    refine ⟨datum, List.mem_append_right _ ?_, some relation.relatedTable, hwritten⟩
    exact List.mem_flatMap.2 ⟨relation, (List.mem_filter.1 hrelation).1, hdatum⟩
  · have hselected := parts.selected
    split at hselected
    · obtain ⟨columns, rfl⟩ := hselected
      rw [List.mem_singleton.1 hselection] at hassignment
      simp [Statement.assignments] at hassignment
    · simp [hselected] at hselection

/-- What a compiled update writes are values of the data, stored one by one: an object for a number
as an operation.  If a bound value has an object in the place of a number all the same, then it is
taken as a whole. -/
theorem update_operations {table : String} {data : Json} {filter? select? include? : Option Json}
    {chain : Chain} (checked : context.validator = Validator.ofSchema)
    (compiled : Returns (context.update table data filter? select? include?) s chain t) :
    ∃ info members, context.repository.table? table = some info ∧ data = .object members ∧
      ∀ statement ∈ chain.statements, ∀ assignment ∈ statement.assignments,
        ∀ write ∈ assignment.writes, ∃ datum ∈ info.changes members, ∃ field qualifier?,
          datum.field? = some field ∧ datum.IsWritten qualifier? write ∧
          ∀ value, write.2.bound? = some value → field.Misplaces value →
            datum.IsTakenWhole field := by
  obtain ⟨info, members, plan, _, _, main, steps, selections, hknown, rfl, hplan, hstatements,
    hparts⟩ := parts_of_update compiled
  refine ⟨info, members, hknown, rfl, ?_⟩
  intro statement hstatement assignment hassignment write hwrite
  rw [hstatements] at hstatement
  obtain ⟨datum, hdatum, qualifier?, hwritten⟩ :=
    hparts.written statement hstatement assignment hassignment write hwrite
  have hchecked := alterationPlan_checked checked hplan datum hdatum
  obtain ⟨field, _, hfield, -⟩ := hchecked.valid
  refine ⟨datum, hdatum, field, qualifier?, hfield, hwritten, ?_⟩
  intro value hbound hmisplaced
  obtain ⟨rfl, hstored⟩ := hwritten.2.bound hbound
  exact hchecked.isTakenWhole_of_within hfield hstored Field.objectFault_isMisplaced
    hmisplaced.within

end WriteContext

/-! ## An operation inside a nested object -/

namespace Library

/-- A rating of a book, with the number of votes inside. -/
def ratingField : Field := .ofKind (.object ⟨[("votes", integer)]⟩)

/-- The columns of books with a rating among their details. -/
def ratedSchema : ObjectSchema :=
  ⟨[("details", .ofKind (.object ⟨[("rating", ratingField)]⟩)), ("id", integer)]⟩

/-- Books with a rating among their details. -/
def ratedBook : Table := ⟨"book", ratedSchema, none, []⟩

/-- Books with a rating among their details, and nothing else. -/
def rated : Repository := ⟨[ratedBook]⟩

theorem rated_accepted : rated.Accepted := ⟨[⟨"book", ratedSchema, [], []⟩], rfl⟩

/-- One more vote. -/
def vote : Json := .object [("votes", .object [("increment", Json.ofUInt64 1)])]

/-- An operation on the votes is misplaced inside the rating. -/
theorem vote_misplaced : ratingField.Misplaces vote :=
  .member rfl (List.mem_singleton_self _) rfl (.number rfl)

/-- The next number for a book, and one more vote for it. -/
def voted : Members :=
  [("id", .object [("increment", Json.ofUInt64 1)]), ("details", .object [("rating", vote)])]

end Library

namespace WriteContext

/-- The number of a book becomes an operation, and the vote is taken as a whole. -/
theorem update_operations_library :
    (Library.checkedWrites Library.rated).validator = Validator.ofSchema ∧
      ∃ chain next, Returns ((Library.checkedWrites Library.rated).update "book"
          (.object Library.voted) none none none) Progress.start chain next ∧
        ∃ statement, chain.statements = [statement] ∧
          ∀ assignment ∈ statement.assignments, ∀ write ∈ assignment.writes,
            ∃ datum ∈ Library.ratedBook.changes Library.voted, ∃ field qualifier?,
              datum.field? = some field ∧ datum.IsWritten qualifier? write ∧
              ∀ value, write.2.bound? = some value → field.Misplaces value →
                datum.IsTakenWhole field := by
  have hchecked : (Library.checkedWrites Library.rated).validator = Validator.ofSchema := rfl
  refine ⟨hchecked, _, _, rfl, _, rfl, ?_⟩
  have hcompiled : Returns ((Library.checkedWrites Library.rated).update "book"
    (.object Library.voted) none none none) Progress.start _ _ := rfl
  obtain ⟨info, members, hinfo, hmembers, hwrites⟩ := update_operations hchecked hcompiled
  obtain rfl : Library.ratedBook = info := Option.some.inj hinfo
  obtain rfl : Library.voted = members := Json.object.inj hmembers
  exact hwrites _ (List.mem_singleton_self _)

/-- An operation inside an object that is the value of a key is bound as an object. -/
theorem update_binds_operation :
    Library.rated.Accepted ∧ Library.ratingField.Misplaces Library.vote ∧
      ∃ chain next, Returns ((Library.checkedWrites Library.rated).update "book"
          (.object [("details", .object [("rating", Library.vote)])]) none none none)
            Progress.start chain next ∧
        ∃ statement ∈ chain.statements, ∃ assignment ∈ statement.assignments,
          ∃ write ∈ assignment.writes, write.1 = ⟨"details", some "rating"⟩ ∧
            write.2.bound? = some Library.vote :=
  ⟨Library.rated_accepted, Library.vote_misplaced, _, _, rfl, _, List.mem_singleton_self _, _,
    List.mem_singleton_self _, _, List.mem_singleton_self _, rfl, rfl⟩

end WriteContext

end RelationalQuery
