import RelationalQuery.Proofs.Parameter
import RelationalQuery.Proofs.Query.Alteration

/-!
# What an update writes

The data of an update gives values for places: for columns, and for keys inside columns of JSON that
are patched.  The places are read off the data alone.  The assignments of a compiled plan write
exactly these places, one by one and in the order of the data: an object for a number as an
operation on the place, and any other value as it is.

Main definitions:

- `Datum` is a value that the data gives for a place.
- `Table.ownData` and `Relation.relatedData` are the values for the rows of the table and for the
  related rows of a relation.
- `Assignment.writes` are the places that an assignment writes, with what is written there.
- `Datum.IsWritten` says that a value is written to its place.

Main results:

- `WriteContext.fieldAssignments_writes`: the entry of a column writes its values.
- `WriteContext.alterationPlan_writes`: a compiled plan writes the values of its data and nothing
  else.
-/

namespace RelationalQuery

open Sql (ArithmeticOperator Assignment ColumnRef Expr Patch)

/-! ## Places and values -/

/-- A place that is written: a column, or a key inside a column of JSON. -/
structure Place where
  column : String
  key? : Option String
deriving DecidableEq

/-- The current value of a place, read under a qualifier. -/
def Place.current (place : Place) (qualifier? : Option String) : ColumnRef :=
  ⟨qualifier?, place.column, place.key?.toList⟩

/-- A value that the data of an update gives for a place. -/
structure Datum where
  place : Place
  /-- The field of the place, if the schema has it. -/
  field? : Option Field
  value : Json
  /-- The value is the key of rows that are connected. -/
  connects : Bool

/-- The schema and the members of an object that is patched key by key: the field takes objects with
a fixed set of keys, and it does not take null. -/
def Field.patch? (field : Field) : Json → Option (ObjectSchema × Members)
  | .object members =>
    match field.kind with
    | .object schema =>
      if field.extensible || field.nullable then none else some (schema, members)
    | _ => none
  | _ => none

/-- The members of an object for a number, which is an operation on it. -/
def Field.operation? (field : Field) : Json → Option Members
  | .object members =>
    match field.kind with
    | .number _ => some members
    | _ => none
  | _ => none

/-- The word for an operation. -/
def Sql.ArithmeticOperator.word : ArithmeticOperator → String
  | .add => "increment"
  | .subtract => "decrement"
  | .multiply => "multiply"
  | .divide => "divide"

/-- The values of the entry of a column: those of the keys of a patch, or the value itself. -/
def ObjectSchema.data (schema : ObjectSchema) (entry : String × Json) : List Datum :=
  match (schema.get? entry.1).bind fun field => field.patch? entry.2 with
  | some (nested, members) =>
    members.map fun member =>
      ⟨⟨entry.1, some member.1⟩, nested.get? member.1, member.2, false⟩
  | none => [⟨⟨entry.1, none⟩, schema.get? entry.1, entry.2, false⟩]

/-- The key of connected rows for the column that holds it. -/
def ObjectSchema.keyDatum (schema : ObjectSchema) (column : String) (key : Json) : Datum :=
  ⟨⟨column, none⟩, schema.get? column, key, true⟩

namespace Relation

/-- The values of an entry for the rows of the table: the key of the row that they refer to. -/
def ownData (relation : Relation) (schema : ObjectSchema) (data : Members) : List Datum :=
  match (relation.payload? data).bind relation.connected? with
  | some key => if relation.shape.isInverse then [] else [schema.keyDatum relation.targetColumn key]
  | none => []

/-- The values of an entry for the related rows: the key of connected rows that refer to the table,
or else what the entry gives for columns of its own. -/
def relatedData (relation : Relation) (data : Members) : List Datum :=
  match relation.payload? data with
  | none => []
  | some payload =>
    match relation.connected? payload with
    | some key =>
      if relation.shape.isInverse then
        [relation.relatedSchema.keyDatum relation.sourceColumn key]
      else []
    | none => payload.flatMap relation.relatedSchema.data

end Relation

/-- The members of data that name no relation, in their order. -/
def Table.ownMembers (table : Table) (data : Members) : Members :=
  data.filter fun member => table.relations.all (·.name != member.1)

/-- The members of data that name a relation, each with its relation, in their order. -/
def Table.relationMembers (table : Table) (data : Members) : List (Relation × Json) :=
  data.filterMap fun member =>
    (table.relations.find? (·.name == member.1)).map fun relation => (relation, member.2)

/-- The values for the rows of the table: those of its columns in the order of the data, and then
the keys of connected rows in the order in which the relations are declared. -/
def Table.ownData (table : Table) (data : Members) : List Datum :=
  (table.ownMembers data).flatMap table.schema.data ++
    table.relations.flatMap fun relation => relation.ownData table.schema data

/-- The entry of a column is an empty object that patches nothing. -/
def ObjectSchema.isEmptyPatch (schema : ObjectSchema) (entry : String × Json) : Bool :=
  (schema.get? entry.1).any (·.isPlainObject) && entry.2.members?.any (·.isEmpty)

/-- Related rows are changed: they are connected by a key of their own, or some entry is not an
empty patch. -/
def Relation.changesRows (data : Members) (relation : Relation) : Bool :=
  match relation.payload? data with
  | none => false
  | some payload =>
    match relation.connected? payload with
    | some _ => relation.shape.isInverse
    | none => payload.any fun entry => !relation.relatedSchema.isEmptyPatch entry

section

variable {schema : ObjectSchema} {relation : Relation} {data : Members}

/-- What is patched is an object for a plain object with a schema. -/
theorem Field.patch?_eq_some_iff {field : Field} {value : Json} {nested : ObjectSchema}
    {members : Members} : field.patch? value = some (nested, members) ↔
      field.isPlainObject = true ∧ field.objectSchema? = some nested ∧
        value = .object members := by
  unfold patch? isPlainObject isObject objectSchema?
  cases value with
  | object entries =>
    cases field.kind with
    | object schema => cases field.extensible <;> cases field.nullable <;> simp
    | array _ | union _ | boolean | number _ | string _ => simp
  | null | bool _ | number _ | string _ | array _ => simp

/-- The compiler patches the same objects. -/
theorem Field.patch?_eq (field : Field) (value : Json) :
    field.patch? value = WriteContext.patched? field value :=
  Option.ext fun ⟨_, _⟩ => patch?_eq_some_iff.trans WriteContext.patched?_eq_some_iff.symm

/-- The compiler takes the same objects for operations. -/
theorem Field.operation?_eq (field : Field) (value : Json) :
    field.operation? value = operationMembers? field value := by
  unfold operation? operationMembers? isNumber Json.members?
  cases value with
  | object _ => cases field.kind <;> rfl
  | null | bool _ | number _ | string _ | array _ => cases field.kind <;> rfl

/-- The compiler knows the words for operations. -/
theorem Sql.ArithmeticOperator.word_of_ofWord? {word : String} {operator : ArithmeticOperator}
    (h : ArithmeticOperator.ofWord? word = some operator) : word = operator.word := by
  unfold ofWord? at h
  split_ifs at h with increment decrement multiply divide
  · cases h
    exact increment
  · cases h
    exact decrement
  · cases h
    exact multiply
  · cases h
    exact divide

/-- The compiler splits data into the same members of columns. -/
theorem Table.ownMembers_eq (table : Table) (data : Members) :
    table.ownMembers data = WriteContext.ownEntries table data := by
  refine List.filter_congr fun member _ => Bool.eq_iff_iff.2 ?_
  rw [List.all_eq_true, Option.isNone_iff_eq_none, relation?, List.find?_eq_none]
  simp

/-- The compiler splits data into the same members of relations. -/
theorem Table.relationMembers_eq (table : Table) (data : Members) :
    table.relationMembers data = WriteContext.relationEntries table data :=
  rfl

/-- An entry gives no values exactly if it is an empty patch. -/
theorem ObjectSchema.data_eq_nil_iff {entry : String × Json} :
    schema.data entry = [] ↔ schema.isEmptyPatch entry = true := by
  obtain ⟨key, value⟩ := entry
  simp only [ObjectSchema.data, Field.patch?_eq]
  unfold isEmptyPatch WriteContext.patched?
  cases schema.get? key with
  | none => simp
  | some field =>
    rw [Option.bind_some, Option.any_some]
    by_cases hplain : field.isPlainObject = true
    · obtain ⟨nested, hnested⟩ : ∃ nested, field.objectSchema? = some nested := by
        rw [← Option.isSome_iff_exists]
        simp only [Field.isPlainObject, Field.isObject, Bool.and_eq_true] at hplain
        exact hplain.1.1
      rw [if_pos hplain, hplain, hnested]
      cases value.members? with
      | none => simp
      | some members => simp
    · rw [if_neg hplain]
      simp [hplain]

/-- Related rows are changed exactly if the entry gives values for them. -/
theorem Relation.relatedData_ne_nil_iff :
    relation.relatedData data ≠ [] ↔ relation.changesRows data = true := by
  unfold relatedData changesRows
  cases relation.payload? data with
  | none => simp
  | some payload =>
    cases hkey : relation.connected? payload with
    | some key =>
      simp only [hkey]
      cases relation.shape.isInverse <;> simp
    | none =>
      simp only [hkey, ne_eq, List.flatMap_eq_nil_iff, not_forall, List.any_eq_true,
        Bool.not_eq_true', ObjectSchema.data_eq_nil_iff, Bool.not_eq_true, exists_prop]

end

/-! ## Written expressions -/

/-- The places that an assignment writes, with what is written there: a merge writes its keys. -/
def Sql.Assignment.writes (assignment : Assignment) : List (Place × Expr) :=
  match assignment.target.path, assignment.value with
  | [], .merge _ entries =>
    entries.map fun entry => (⟨assignment.target.name, some entry.1⟩, entry.2)
  | path, value => [(⟨assignment.target.name, path.head?⟩, value)]

/-- An expression holds a value as it is: null as a literal, and any other value as a parameter. -/
def Sql.Expr.Holds (expr : Expr) (value : Json) : Prop :=
  if value.isNull then expr = .null ∨ expr = Patch.jsonNull
  else ∃ hint?, expr = .parameter ⟨value, hint?⟩ ∨ expr = .cast (.parameter ⟨value, hint?⟩) "jsonb"

namespace Datum

/-- The members of the operation that a value is: an object for a number, unless it is a key. -/
def operation? (datum : Datum) : Option Members :=
  if datum.connects then none
  else datum.field?.bind fun field => field.operation? datum.value

/-- The compiler takes the same values for operations. -/
theorem operation?_eq {datum : Datum} {field : Field} (value : datum.connects = false)
    (known : datum.field? = some field) :
    datum.operation? = operationMembers? field datum.value := by
  simp [operation?, value, known, Field.operation?_eq]

/-- An expression stores the value of a datum: an operation combines the current value of its place
with a number, and any other value is held as it is. -/
def IsStored (datum : Datum) (qualifier? : Option String) (expr : Expr) : Prop :=
  match datum.operation? with
  | some members =>
    ∃ field operator number, datum.field? = some field ∧
      members = [(operator.word, .number number)] ∧
      (field.isInteger = true → number.int?.isSome = true) ∧
      expr = .operation (datum.place.current qualifier?) operator (.plain (.number number))
        (if field.isInteger then "bigint" else "numeric")
  | none => expr.Holds datum.value

/-- What stores a value is an operation, a literal null or a parameter. -/
theorem IsStored.cases {datum : Datum} {qualifier? : Option String} {expr : Expr}
    (h : datum.IsStored qualifier? expr) :
    (∃ target operator operand numericType,
        expr = .operation target operator operand numericType) ∨
      expr = .null ∨ expr = Patch.jsonNull ∨
      ∃ value, expr = .parameter value ∨ expr = .cast (.parameter value) "jsonb" := by
  unfold IsStored at h
  split at h
  · obtain ⟨_, _, _, -, -, -, rfl⟩ := h
    exact .inl ⟨_, _, _, _, rfl⟩
  · unfold Sql.Expr.Holds at h
    split at h
    · rcases h with rfl | rfl
      · exact .inr (.inl rfl)
      · exact .inr (.inr (.inl rfl))
    · obtain ⟨_, hvalue⟩ := h
      exact .inr (.inr (.inr ⟨_, hvalue⟩))

/-- A write stores the value of a datum at its place. -/
def IsWritten (qualifier? : Option String) (datum : Datum) (write : Place × Expr) : Prop :=
  write.1 = datum.place ∧ datum.IsStored qualifier? write.2

end Datum

/-- Assignments write the values of data one by one, and none of them writes nothing. -/
structure Sql.Assignment.Write (assignments : List Assignment) (qualifier? : Option String)
    (data : List Datum) : Prop where
  each : List.Forall₂ (Datum.IsWritten qualifier?) data (assignments.flatMap Assignment.writes)
  nonempty : ∀ assignment ∈ assignments, assignment.writes ≠ []

/-! ## Entries of columns -/

/-- An operation has a single member with a number that suits the field. -/
theorem atomicOperation_eq_ok {members : Members} {field : Field} {path : String}
    {operator : ArithmeticOperator} {operand : Parameter}
    (h : atomicOperation members field path = .ok (operator, operand)) :
    ∃ number, members = [(operator.word, .number number)] ∧
      (field.isInteger = true → number.int?.isSome = true) ∧
      operand = .plain (.number number) := by
  unfold atomicOperation at h
  split at h
  · rename_i word value
    cases hword : ArithmeticOperator.ofWord? word with
    | none => simp [hword] at h
    | some found =>
      simp only [hword] at h
      by_cases hoperand : isOperand field value = true
      · rw [if_pos hoperand] at h
        obtain ⟨rfl, rfl⟩ : found = operator ∧ Parameter.plain value = operand := by simpa using h
        cases value with
        | number number =>
          refine ⟨number, by rw [ArithmeticOperator.word_of_ofWord? hword], fun hinteger => ?_, rfl⟩
          simpa [isOperand, hinteger] using hoperand
        | _ => simp [isOperand] at hoperand
      · rw [if_neg hoperand] at h
        simp at h
  · simp at h

/-- An assignment to a column writes what is stored there. -/
theorem Sql.Assignment.write_column {column : String} {field? : Option Field} {value : Json}
    {connects : Bool} {qualifier? : Option String} {expr : Expr}
    (stored : Datum.IsStored ⟨⟨column, none⟩, field?, value, connects⟩ qualifier? expr) :
    Assignment.Write [.column column expr] qualifier?
      [⟨⟨column, none⟩, field?, value, connects⟩] := by
  have hwrites : (Assignment.column column expr).writes = [(⟨column, none⟩, expr)] := by
    rcases stored.cases with ⟨_, _, _, _, rfl⟩ | rfl | rfl | ⟨_, rfl | rfl⟩ <;> rfl
  constructor
  · rw [List.flatMap_singleton, hwrites]
    exact .cons ⟨rfl, stored⟩ .nil
  · rw [List.forall_mem_singleton, hwrites]
    exact List.cons_ne_nil _ _

/-- The assignments of a patch write the values of its keys, whichever form they have. -/
theorem Sql.Patch.write_assignments {patch : Patch} {nested : ObjectSchema}
    {qualifier? : Option String} {data : List Datum}
    (stored : List.Forall₂ (fun datum entry => datum.place = ⟨patch.column, some entry.1⟩ ∧
      datum.IsStored qualifier? entry.2 ∧ datum.IsStored qualifier? (Patch.merged entry.2))
      data patch.entries) :
    Assignment.Write (if patch.entries.isEmpty then [] else patch.assignments nested) qualifier?
      data := by
  split
  · rename_i hempty
    rw [List.isEmpty_iff.1 hempty, List.forall₂_nil_right_iff] at stored
    rw [stored]
    exact ⟨.nil, List.forall_mem_nil _⟩
  · rename_i hentries
    have hmerge : patch.mergeAssignment.writes = patch.entries.map fun entry =>
        (⟨patch.column, some entry.1⟩, Patch.merged entry.2) := by
      simp [mergeAssignment, Assignment.column, Assignment.writes, ColumnRef.plain]
    unfold assignments
    -- A patch is written key by key, or as one merge that has all its keys.
    split
    · constructor
      · have hsubscripts : patch.subscriptAssignments.flatMap Assignment.writes =
            patch.entries.map fun entry => (⟨patch.column, some entry.1⟩, entry.2) := by
          rw [subscriptAssignments, List.flatMap_map]
          exact (List.map_eq_flatMap ..).symm
        rw [hsubscripts, List.forall₂_map_right_iff]
        exact stored.imp fun _ _ h => ⟨h.1.symm, h.2.1⟩
      · intro assignment hassignment
        obtain ⟨entry, -, rfl⟩ := List.mem_map.1 hassignment
        exact List.cons_ne_nil _ _
    · constructor
      · rw [List.flatMap_singleton, hmerge, List.forall₂_map_right_iff]
        exact stored.imp fun _ _ h => ⟨h.1.symm, h.2.2⟩
      · rw [List.forall_mem_singleton, hmerge, ne_eq, List.map_eq_nil_iff]
        exact fun hnil => hentries (List.isEmpty_iff.2 hnil)

namespace WriteContext

variable {context : WriteContext} {schema : ObjectSchema} {qualifier? : Option String}
  {s t : Progress}

/-- An operation is stored as one on the current value of its place. -/
theorem operationExpr_isStored {datum : Datum} {members : Members} {field : Field} {path : String}
    {expr : Expr} (operation : datum.operation? = some members) (known : datum.field? = some field)
    (h : operationExpr (datum.place.current qualifier?) members field path = .ok expr) :
    datum.IsStored qualifier? expr := by
  simp only [operationExpr, bind_eq_ok_iff, pure_eq_ok_iff] at h
  obtain ⟨⟨operator, operand⟩, hoperation, rfl⟩ := h
  obtain ⟨number, rfl, hoperand, rfl⟩ := atomicOperation_eq_ok hoperation
  rw [Datum.IsStored, operation]
  exact ⟨field, operator, number, known, rfl, hoperand, rfl⟩

/-- A value that is no operation is stored by what holds it. -/
theorem isStored_of_holds {datum : Datum} {expr : Expr} (operation : datum.operation? = none)
    (holds : expr.Holds datum.value) : datum.IsStored qualifier? expr := by
  rw [Datum.IsStored, operation]
  exact holds

/-- The parameter for a value holds it as it is. -/
theorem fieldExpr_holds {value : Json} {field : Field} {expr : Expr}
    (h : fieldExpr value field = .ok expr) : expr.Holds value := by
  have hcases := fieldExpr_eq_ok h
  unfold Sql.Expr.Holds
  split at hcases
  · rename_i hnull
    rw [if_pos hnull]
    exact .inl hcases
  · rename_i hnull
    rw [if_neg hnull]
    obtain ⟨hint?, -, hexpr⟩ := hcases
    exact ⟨hint?, .inl hexpr⟩

/-- The value of a key in a patch is stored in every form that a patch can have. -/
theorem patchExpr_isStored {column path : String} {nested : ObjectSchema} {entry : String × Json}
    {expr : Expr} (h : Returns (context.patchExpr column nested path qualifier? entry) s expr t) :
    let datum : Datum := ⟨⟨column, some entry.1⟩, nested.get? entry.1, entry.2, false⟩
    datum.IsStored qualifier? (Patch.stored expr) ∧
      datum.IsStored qualifier? (Patch.merged (Patch.stored expr)) ∧ t.aliases = s.aliases := by
  intro datum
  obtain ⟨field, hknown, hcases⟩ := patchExpr_cases h
  have hoperation : datum.operation? = operationMembers? field entry.2 :=
    Datum.operation?_eq rfl hknown
  rcases hcases with ⟨members, hmembers, rfl, hexpr⟩ | ⟨hmembers, hvalid, rfl⟩
  · have hstored : datum.IsStored qualifier? expr :=
      operationExpr_isStored (hoperation.trans hmembers) hknown hexpr
    refine ⟨?_, ?_, rfl⟩ <;>
    -- An operation is stored and merged as it is.
    · rw [Datum.IsStored, hoperation.trans hmembers] at hstored ⊢
      obtain ⟨field, operator, number, hfound, hmembers, hoperand, rfl⟩ := hstored
      exact ⟨field, operator, number, hfound, hmembers, hoperand, rfl⟩
  · refine ⟨?_, ?_, (returns_validate hvalid).2⟩ <;>
    · rw [Datum.IsStored, hoperation.trans hmembers]
      change Sql.Expr.Holds _ entry.2
      unfold Sql.Expr.Holds
      split
      · exact .inr rfl
      · exact ⟨_, by first | exact .inl rfl | exact .inr rfl⟩

/-- A patch writes the values of its keys. -/
theorem patchAssignments_writes {column path : String} {members : Members}
    {nested : ObjectSchema} {assignments : List Assignment}
    (h : Returns (context.patchAssignments column members nested path qualifier?) s assignments t) :
    Assignment.Write assignments qualifier? (members.map fun member =>
      ⟨⟨column, some member.1⟩, nested.get? member.1, member.2, false⟩) ∧
        t.aliases = s.aliases := by
  obtain ⟨entries, _, hentries, hexprs, rfl, rfl⟩ := patchAssignments_cases h
  constructor
  · refine Patch.write_assignments ?_
    rw [List.forall₂_map_left_iff, List.forall₂_map_right_iff]
    refine hexprs.imp ?_
    rintro member ⟨_, expr⟩ ⟨rfl, _, _, hexpr⟩
    obtain ⟨hstored, hmerged, -⟩ := patchExpr_isStored hexpr
    exact ⟨rfl, hstored, hmerged⟩
  · refine state_of_returns_mapM (·.aliases) hentries ?_
    intro member _ s entry t hentry
    simp only [returns_bind, returns_pure] at hentry
    obtain ⟨expr, _, hexpr, rfl, rfl⟩ := hentry
    exact (patchExpr_isStored hexpr).2.2

/-- The entry of a column writes the values that it gives. -/
theorem fieldAssignments_writes {path : String} {entry : String × Json}
    {assignments : List Assignment}
    (h : Returns (context.fieldAssignments schema path qualifier? entry) s assignments t) :
    Assignment.Write assignments qualifier? (schema.data entry) ∧ t.aliases = s.aliases := by
  obtain ⟨field, hknown, hcases⟩ := fieldAssignments_cases h
  have hdata : schema.data entry =
      match patched? field entry.2 with
      | some (nested, members) => members.map fun member =>
          ⟨⟨entry.1, some member.1⟩, nested.get? member.1, member.2, false⟩
      | none => [⟨⟨entry.1, none⟩, some field, entry.2, false⟩] := by
    rw [ObjectSchema.data, hknown, Option.bind_some, Field.patch?_eq]
  rw [hdata]
  rcases hcases with ⟨members, expr, hoperation, rfl, hexpr, rfl⟩ |
    ⟨nested, members, -, hpatched, hassignments⟩ |
    ⟨expr, hoperation, hpatched, hvalid, hexpr, rfl⟩
  · rw [patched?_of_operation hoperation]
    refine ⟨Assignment.write_column (operationExpr_isStored ?_ rfl hexpr), rfl⟩
    exact (Datum.operation?_eq rfl rfl).trans hoperation
  · rw [hpatched]
    exact patchAssignments_writes hassignments
  · rw [hpatched]
    refine ⟨Assignment.write_column ?_, (returns_validate hvalid).2⟩
    exact isStored_of_holds ((Datum.operation?_eq rfl rfl).trans hoperation) (fieldExpr_holds hexpr)

end WriteContext

/-! ## Plans -/

/-- A step changes the related rows of a relation by the values that the data gives for them. -/
structure AlterationStep.Writes (data : Members) (relation : Relation) (step : AlterationStep) :
    Prop where
  write : Assignment.Write step.assignments (some relation.relatedTable) (relation.relatedData data)
  along : step.relation = relation

namespace Sql.Assignment.Write

variable {left right : List Assignment} {qualifier? : Option String} {first second : List Datum}

protected theorem nil : Assignment.Write [] qualifier? [] :=
  ⟨.nil, List.forall_mem_nil _⟩

/-- Assignments that write values one after the other write them together. -/
theorem append (hleft : Assignment.Write left qualifier? first)
    (hright : Assignment.Write right qualifier? second) :
    Assignment.Write (left ++ right) qualifier? (first ++ second) := by
  constructor
  · rw [List.flatMap_append]
    exact List.rel_append hleft.each hright.each
  · rw [List.forall_mem_append]
    exact ⟨hleft.nonempty, hright.nonempty⟩

/-- There are assignments exactly if there are values to write. -/
theorem eq_nil_iff (h : Assignment.Write left qualifier? first) : left = [] ↔ first = [] := by
  have heach := h.each
  constructor
  · rintro rfl
    exact List.forall₂_nil_right_iff.1 heach
  · rintro rfl
    rw [List.forall₂_nil_left_iff, List.flatMap_eq_nil_iff] at heach
    refine List.eq_nil_iff_forall_not_mem.2 fun assignment hassignment => ?_
    exact h.nonempty assignment hassignment (heach assignment hassignment)

/-- What is written are values of the data. -/
theorem written (h : Assignment.Write left qualifier? first) :
    ∀ assignment ∈ left, ∀ write ∈ assignment.writes,
      ∃ datum ∈ first, datum.IsWritten qualifier? write := by
  intro assignment hassignment write hwrite
  exact exists_mem_of_forall₂ h.each (List.mem_flatMap.2 ⟨assignment, hassignment, hwrite⟩)

end Sql.Assignment.Write

namespace WriteContext

variable {context : WriteContext} {table : Table} {data : Members} {relation : Relation}
  {plan next : AlterationPlan} {s t : Progress}

/-- The entries of columns write the values that they give, one entry after the other. -/
theorem mapM_fieldAssignments_writes {schema : ObjectSchema} {path : String}
    {qualifier? : Option String} {entries : Members} {parts : List (List Assignment)}
    (h : Returns (entries.mapM (context.fieldAssignments schema path qualifier?)) s parts t) :
    Assignment.Write parts.flatten qualifier? (entries.flatMap schema.data) ∧
      t.aliases = s.aliases := by
  constructor
  · have hparts := forall₂_of_returns_mapM
      (R := fun entry part => Assignment.Write part qualifier? (schema.data entry)) h
      fun _ _ _ _ _ hentry => (fieldAssignments_writes hentry).1
    clear h
    induction hparts with
    | nil => exact .nil
    | cons hhead _ ih => exact hhead.append ih
  · exact state_of_returns_mapM (·.aliases) h fun _ _ _ _ _ hentry =>
      (fieldAssignments_writes hentry).2

/-- A plan has the changes of another one, and then further ones: values for the rows of the table,
and steps for those of some relations that change related rows. -/
structure Extends (table : Table) (data : Members) (relations : List Relation)
    (plan next : AlterationPlan) : Prop where
  own : ∃ assignments, next.own = plan.own ++ assignments ∧ Assignment.Write assignments none
    (relations.flatMap fun relation => relation.ownData table.schema data)
  steps : ∃ steps, next.steps = plan.steps ++ steps ∧
    List.Forall₂ (AlterationStep.Writes data) (relations.filter (·.changesRows data)) steps

theorem Extends.refl : Extends table data [] plan plan :=
  ⟨⟨[], (List.append_nil _).symm, .nil⟩, ⟨[], (List.append_nil _).symm, .nil⟩⟩

/-- Relations that extend a plan one after the other extend it together. -/
theorem Extends.trans {first last : AlterationPlan} {left right : List Relation}
    (hleft : Extends table data left first plan) (hright : Extends table data right plan last) :
    Extends table data (left ++ right) first last := by
  obtain ⟨⟨own, hown, hwritten⟩, ⟨steps, hsteps, heach⟩⟩ := hleft
  obtain ⟨⟨others, hothers, hothersWritten⟩, ⟨later, hlater, hlaterEach⟩⟩ := hright
  constructor
  · refine ⟨own ++ others, by rw [hothers, hown, List.append_assoc], ?_⟩
    rw [List.flatMap_append]
    exact hwritten.append hothersWritten
  · refine ⟨steps ++ later, by rw [hlater, hsteps, List.append_assoc], ?_⟩
    rw [List.filter_append]
    exact List.rel_append heach hlaterEach

/-- Assignments to the rows of the table alone. -/
theorem Extends.assign {assignments : List Assignment} (unchanged : relation.relatedData data = [])
    (written : Assignment.Write assignments none (relation.ownData table.schema data)) :
    Extends table data [relation] plan (plan.assign assignments) := by
  constructor
  · refine ⟨assignments, rfl, ?_⟩
    rwa [List.flatMap_singleton]
  · refine ⟨[], (List.append_nil _).symm, ?_⟩
    have hunchanged : relation.changesRows data = false := by
      rw [← Bool.not_eq_true, ← Relation.relatedData_ne_nil_iff, not_not]
      exact unchanged
    rw [List.filter_cons_of_neg (by simp [hunchanged]), List.filter_nil]
    exact .nil

/-- A relation without values leaves the plan as it is. -/
theorem Extends.unchanged (own : relation.ownData table.schema data = [])
    (related : relation.relatedData data = []) : Extends table data [relation] plan plan := by
  have hassign : Extends table data [relation] plan (plan.assign []) := by
    refine .assign related ?_
    rw [own]
    exact .nil
  rwa [AlterationPlan.assign, List.append_nil] at hassign

/-- Assignments to related rows alone; there is a step exactly if something is assigned. -/
theorem Extends.change {assignments : List Assignment}
    (unchanged : relation.ownData table.schema data = [])
    (written : Assignment.Write assignments (some relation.relatedTable)
      (relation.relatedData data)) :
    Extends table data [relation] plan (plan.change relation assignments) := by
  unfold AlterationPlan.change
  split
  · rename_i hempty
    exact .unchanged unchanged (written.eq_nil_iff.1 (List.isEmpty_iff.1 hempty))
  · rename_i hassignments
    constructor
    · refine ⟨[], (List.append_nil _).symm, ?_⟩
      rw [List.flatMap_singleton, unchanged]
      exact .nil
    · refine ⟨[⟨relation, assignments⟩], rfl, ?_⟩
      have hchanges : relation.changesRows data = true := by
        rw [← Relation.relatedData_ne_nil_iff]
        exact fun hnil => hassignments (List.isEmpty_iff.2 (written.eq_nil_iff.2 hnil))
      rw [List.filter_cons_of_pos hchanges, List.filter_nil]
      exact .cons ⟨written, rfl⟩ .nil

/-- The entry of a relation that connects rows by their key extends the plan. -/
theorem connect_extends {path : String} {payload : Members} {key : Json}
    (given : relation.payload? data = some payload)
    (connected : relation.connected? payload = some key)
    (h : Returns (context.connect table path plan relation payload key) s next t) :
    Extends table data [relation] plan next ∧ t.aliases = s.aliases := by
  rcases connect_cases h with ⟨hinverse, field, expr, hvalid, -, hexpr, rfl⟩ |
    ⟨howned, field, expr, hvalid, -, hexpr, rfl⟩
  · refine ⟨.change ?_ ?_, (returns_validate hvalid).2⟩
    · simp [Relation.ownData, given, connected, hinverse]
    · simp only [Relation.relatedData, given, connected, hinverse]
      exact Assignment.write_column (isStored_of_holds rfl (fieldExpr_holds hexpr))
  · refine ⟨.assign ?_ ?_, (returns_validate hvalid).2⟩
    · simp [Relation.relatedData, given, connected, howned]
    · simp only [Relation.ownData, given, connected, howned, Option.bind_some]
      exact Assignment.write_column (isStored_of_holds rfl (fieldExpr_holds hexpr))

/-- The entry of a relation adds the values that it gives. -/
theorem addRelation_extends
    (h : Returns (context.addRelation table data plan relation) s next t) :
    Extends table data [relation] plan next ∧ t.aliases = s.aliases := by
  rcases addRelation_cases h with ⟨habsent, rfl, rfl⟩ |
    ⟨payload, hgiven, ⟨key, hkey, hconnect⟩ | ⟨hkey, assignments, hassignments, rfl⟩⟩
  · refine ⟨.unchanged ?_ ?_, rfl⟩
    · simp [Relation.ownData, habsent]
    · simp [Relation.relatedData, habsent]
  · exact connect_extends hgiven hkey hconnect
  · obtain ⟨hwritten, haliases⟩ := mapM_fieldAssignments_writes hassignments
    refine ⟨.change ?_ ?_, haliases⟩
    · simp [Relation.ownData, hgiven, hkey]
    · simpa [Relation.relatedData, hgiven, hkey] using hwritten

/-- The entries of all relations extend the plan in their order. -/
theorem foldlM_addRelation_extends {relations : List Relation}
    (h : Returns (relations.foldlM (context.addRelation table data) plan) s next t) :
    Extends table data relations plan next ∧ t.aliases = s.aliases := by
  refine returns_foldlM_compose (R := fun relations first last =>
    Extends table data relations first.1 last.1 ∧ last.2.aliases = first.2.aliases) h ?_ ?_ ?_
  · exact fun _ => ⟨.refl, rfl⟩
  · rintro relation rest _ _ _ ⟨hfirst, haliases⟩ ⟨hrest, hlater⟩
    exact ⟨hfirst.trans hrest, hlater.trans haliases⟩
  · exact fun _ _ _ _ _ _ hstep => addRelation_extends hstep

/-- A compiled plan writes the values of the data: those for the rows of the table, and in one step
each those for the related rows of the relations that change some, in the order in which they are
declared. -/
theorem alterationPlan_writes (h : Returns (context.alterationPlan table data) s plan t) :
    Assignment.Write plan.own none (table.ownData data) ∧
      List.Forall₂ (AlterationStep.Writes data) (table.relations.filter (·.changesRows data))
        plan.steps ∧ t.aliases = s.aliases := by
  simp only [alterationPlan, returns_bind] at h
  obtain ⟨own, r, hown, hsteps⟩ := h
  obtain ⟨hcolumns, hfirst⟩ := mapM_fieldAssignments_writes hown
  obtain ⟨⟨⟨assignments, hassigned, hkeys⟩, ⟨steps, hstepped, heach⟩⟩, hlater⟩ :=
    foldlM_addRelation_extends hsteps
  refine ⟨?_, ?_, hlater.trans hfirst⟩
  · rw [hassigned, Table.ownData, Table.ownMembers_eq]
    exact hcolumns.append hkeys
  · rw [hstepped]
    exact heach

end WriteContext

end RelationalQuery
