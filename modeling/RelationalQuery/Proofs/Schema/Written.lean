import RelationalQuery.Proofs.NamedOrder
import RelationalQuery.Proofs.Schema.Reading

/-!
# Schemas that are written and read

A schema that is written as JSON and read again is the same schema: absent parts stand for what was
left out, at every level.  Only a default that is null is read as no default.

Main definitions:

- `ObjectSchema.IsOrdered` and its companions say that the fields of all objects are in the order of
  their names, each name once.
- `ObjectSchema.withoutNullDefaults` and its companions leave out the defaults that are null.

Main results:

- `Field.ofJson?_toJson` and `ObjectSchema.ofJson?_toJson`: what is read of a written schema.
- `Field.isRead_of_ofJson?` and `ObjectSchema.isRead_of_ofJson?`: what is read is in order and has no
  default that is null.
-/

namespace RelationalQuery

/-! ## Order of fields -/

mutual

/-- The fields of all objects inside a kind are in the order of their names. -/
def FieldKind.IsOrdered : FieldKind → Prop
  | .object schema => schema.IsOrdered
  | .array element => element.IsOrdered
  | .union alternatives => Field.ListIsOrdered alternatives
  | .boolean | .number _ | .string _ => True

/-- The fields of all objects inside a field are in the order of their names. -/
def Field.IsOrdered : Field → Prop
  | ⟨kind, _, _, _, _⟩ => kind.IsOrdered

/-- The fields of all objects inside some fields are in the order of their names. -/
def Field.ListIsOrdered : List Field → Prop
  | [] => True
  | field :: rest => field.IsOrdered ∧ Field.ListIsOrdered rest

/-- The fields of all objects inside some named fields are in the order of their names. -/
def Field.NamedIsOrdered : List (String × Field) → Prop
  | [] => True
  | (_, field) :: rest => field.IsOrdered ∧ Field.NamedIsOrdered rest

/-- The fields of a schema, and of all objects inside of it, are in the order of their names. -/
def ObjectSchema.IsOrdered : ObjectSchema → Prop
  | ⟨fields⟩ => (fields.map Prod.fst).Pairwise (· < ·) ∧ Field.NamedIsOrdered fields

end

namespace ObjectSchema

/-- A field whose name comes behind all others is appended. -/
theorem insertField_of_last {fields : List (String × Field)} {name : String} {field : Field}
    (last : ∀ other ∈ fields.map Prod.fst, other < name) :
    insertField fields name field = fields ++ [(name, field)] := by
  induction fields with
  | nil => rfl
  | cons first rest ih =>
    obtain ⟨other, old⟩ := first
    rw [List.map_cons, List.forall_mem_cons] at last
    rw [insertField, if_neg (lt_asymm last.1), if_neg (ne_of_gt last.1), ih last.2,
      List.cons_append]

/-- Fields in the order of their names make the schema that has them. -/
theorem ofFields_of_pairwise {fields : List (String × Field)}
    (ordered : (fields.map Prod.fst).Pairwise (· < ·)) : ofFields fields = ⟨fields⟩ := by
  have hfold : ∀ {first rest : List (String × Field)},
      ((first ++ rest).map Prod.fst).Pairwise (· < ·) →
        rest.foldl (fun schema entry => schema.insert entry.1 entry.2) ⟨first⟩ =
          (⟨first ++ rest⟩ : ObjectSchema) := by
    intro first rest
    induction rest generalizing first with
    | nil => simp
    | cons entry rest ih =>
      intro hordered
      have hsplit : first ++ entry :: rest = first ++ [entry] ++ rest := by simp
      rw [hsplit] at hordered ⊢
      have hlast : ∀ other ∈ first.map Prod.fst, other < entry.1 := by
        rw [List.map_append, List.pairwise_append, List.map_append, List.pairwise_append]
          at hordered
        exact fun other hother => hordered.1.2.2 other hother entry.1 (by simp)
      rw [List.foldl_cons, insert, insertField_of_last hlast]
      exact ih hordered
  exact hfold ordered

end ObjectSchema

/-! ## Defaults that are null -/

mutual

/-- The kind without defaults that are null. -/
def FieldKind.withoutNullDefaults : FieldKind → FieldKind
  | .object schema => .object schema.withoutNullDefaults
  | .array element => .array element.withoutNullDefaults
  | .union alternatives => .union (Field.listWithoutNullDefaults alternatives)
  | .boolean => .boolean
  | .number format => .number format
  | .string format => .string format

/-- The field without defaults that are null. -/
def Field.withoutNullDefaults : Field → Field
  | ⟨kind, optional, nullable, defaultValue, extensible⟩ =>
    ⟨kind.withoutNullDefaults, optional, nullable, Json.present? defaultValue, extensible⟩

/-- The fields without defaults that are null. -/
def Field.listWithoutNullDefaults : List Field → List Field
  | [] => []
  | field :: rest => field.withoutNullDefaults :: Field.listWithoutNullDefaults rest

/-- The named fields without defaults that are null. -/
def Field.namedWithoutNullDefaults : List (String × Field) → List (String × Field)
  | [] => []
  | (name, field) :: rest =>
    (name, field.withoutNullDefaults) :: Field.namedWithoutNullDefaults rest

/-- The schema without defaults that are null. -/
def ObjectSchema.withoutNullDefaults : ObjectSchema → ObjectSchema
  | ⟨fields⟩ => ⟨Field.namedWithoutNullDefaults fields⟩

end

theorem Field.map_fst_namedWithoutNullDefaults (fields : List (String × Field)) :
    (Field.namedWithoutNullDefaults fields).map Prod.fst = fields.map Prod.fst := by
  induction fields with
  | nil => rfl
  | cons field rest ih =>
    obtain ⟨name, field⟩ := field
    rw [Field.namedWithoutNullDefaults, List.map_cons, List.map_cons, ih]

/-! ## Reading what is written -/

theorem Field.definitions?_written {draft : FieldDraft} {field : Field}
    (h : draft.definitions = some (.object field.definitionMembers)) :
    draft.definitions? = some (Json.present? field.defaultValue, field.extensible) := by
  obtain ⟨kind, optional, nullable, defaultValue, extensible⟩ := field
  cases defaultValue <;>
    simp [FieldDraft.definitions?, h, Field.definitionMembers, Json.record?, Members.get?,
      List.lookup_cons, Json.flag?, Json.bool?, Json.present?]

/-- The type whose word a draft holds decides its kind. -/
theorem FieldDraft.type_of_word {draft : FieldDraft} (type : FieldType)
    (h : draft.type = some (.string type.name)) :
    draft.type.bind FieldType.ofJson? = some type := by
  rw [h, Option.bind_some]
  cases type <;> rfl

/-- The members of a kind leave the flags and the definitions of a draft as they are. -/
theorem FieldKind.draft_flags (kind : FieldKind) (rest : Members) :
    (Field.draft (kind.members ++ rest)).optional = (Field.draft rest).optional ∧
      (Field.draft (kind.members ++ rest)).nullable = (Field.draft rest).nullable ∧
      (Field.draft (kind.members ++ rest)).definitions = (Field.draft rest).definitions := by
  rcases kind with schema | element | alternatives | _ | (_ | format) | (_ | format) <;>
    simp [FieldKind.members, Field.draft]

mutual

/-- A written field is read without its null defaults. -/
theorem Field.ofJson?_toJson : ∀ (field : Field), field.IsOrdered →
    Field.ofJson? field.toJson = some field.withoutNullDefaults
  | ⟨kind, optional, nullable, defaultValue, extensible⟩, ordered => by
    rw [Field.toJson, Field.ofJson?, FieldDraft.field?, kind.kind?_written ordered,
      (kind.draft_flags _).1, (kind.draft_flags _).2.1,
      Field.definitions?_written ((kind.draft_flags _).2.2.trans rfl)]
    · simp [Field.draft, Json.flag?, Json.bool?, Field.withoutNullDefaults]
    · simp [Field.draft, FieldDraft.empty]

/-- The kind of a written field is read without its null defaults. -/
theorem FieldKind.kind?_written : ∀ (kind : FieldKind) {rest : Members}, kind.IsOrdered →
    (Field.draft rest).format = none →
      (Field.draft (kind.members ++ rest)).kind? = some kind.withoutNullDefaults
  | .object ⟨fields⟩, rest, ordered, _ => by
    have hfields := Field.ofMembers?_namedToMembers fields ordered.2
    have hnames : ((Field.namedWithoutNullDefaults fields).map Prod.fst).Pairwise (· < ·) := by
      rw [Field.map_fst_namedWithoutNullDefaults]
      exact ordered.1
    rw [FieldDraft.kind?, FieldDraft.type_of_word .object rfl]
    simp [FieldKind.members, ObjectSchema.propertyMembers, Field.draft, Field.namedOfJson?, hfields,
      ObjectSchema.ofFields_of_pairwise hnames, FieldKind.withoutNullDefaults,
      ObjectSchema.withoutNullDefaults]
  | .array element, rest, ordered, _ => by
    have helement := Field.ofJson?_toJson element ordered
    rw [FieldDraft.kind?, FieldDraft.type_of_word .array rfl]
    simp [FieldKind.members, Field.draft, helement, FieldKind.withoutNullDefaults]
  | .union alternatives, rest, ordered, _ => by
    have hitems := Field.ofItems?_listToJson alternatives ordered
    rw [FieldDraft.kind?, FieldDraft.type_of_word .union rfl]
    simp [FieldKind.members, Field.draft, Field.listOfJson?, hitems,
      FieldKind.withoutNullDefaults]
  | .boolean, rest, _, hformat => by
    rw [FieldDraft.kind?, FieldDraft.type_of_word .boolean rfl]
    rfl
  | .number none, rest, _, hformat => by
    rw [FieldDraft.kind?, FieldDraft.type_of_word .number rfl]
    simp [FieldKind.members, Field.draft, hformat, Json.optional?, Json.present?,
      FieldKind.withoutNullDefaults]
  | .string none, rest, _, hformat => by
    rw [FieldDraft.kind?, FieldDraft.type_of_word .string rfl]
    simp [FieldKind.members, Field.draft, hformat, Json.optional?, Json.present?,
      FieldKind.withoutNullDefaults]
  | .number (some format), rest, _, _ => by
    rw [FieldDraft.kind?, FieldDraft.type_of_word .number rfl]
    simp [FieldKind.members, Field.draft, Json.optional?, Json.present?, Json.name?,
      FieldKind.withoutNullDefaults]
  | .string (some format), rest, _, _ => by
    rw [FieldDraft.kind?, FieldDraft.type_of_word .string rfl]
    simp [FieldKind.members, Field.draft, Json.optional?, Json.present?, Json.name?,
      FieldKind.withoutNullDefaults]

/-- Written fields are read without their null defaults. -/
theorem Field.ofItems?_listToJson : ∀ (fields : List Field), Field.ListIsOrdered fields →
    Field.ofItems? (Field.listToJson fields) = some (Field.listWithoutNullDefaults fields)
  | [], _ => rfl
  | field :: rest, ordered => by
    rw [Field.listToJson, Field.ofItems?, Field.ofJson?_toJson field ordered.1,
      Field.ofItems?_listToJson rest ordered.2, Field.listWithoutNullDefaults]
    rfl

/-- Written named fields are read without their null defaults. -/
theorem Field.ofMembers?_namedToMembers : ∀ (fields : List (String × Field)),
    Field.NamedIsOrdered fields →
      Field.ofMembers? (Field.namedToMembers fields) = some (Field.namedWithoutNullDefaults fields)
  | [], _ => rfl
  | (name, field) :: rest, ordered => by
    rw [Field.namedToMembers, Field.ofMembers?, Field.ofJson?_toJson field ordered.1,
      Field.ofMembers?_namedToMembers rest ordered.2, Field.namedWithoutNullDefaults]
    rfl

end

/-- A written schema is read without its null defaults. -/
theorem ObjectSchema.ofJson?_toJson (schema : ObjectSchema) (ordered : schema.IsOrdered) :
    ObjectSchema.ofJson? schema.toJson = some schema.withoutNullDefaults := by
  obtain ⟨fields⟩ := schema
  have hfields := Field.ofMembers?_namedToMembers fields ordered.2
  have hnames : ((Field.namedWithoutNullDefaults fields).map Prod.fst).Pairwise (· < ·) := by
    rw [Field.map_fst_namedWithoutNullDefaults]
    exact ordered.1
  simp [ObjectSchema.ofJson?, ObjectSchema.toJson, ObjectSchema.propertyMembers, Json.record?,
    Members.get?, List.lookup_cons, Field.namedOfJson?, hfields,
    ObjectSchema.ofFields_of_pairwise hnames, ObjectSchema.withoutNullDefaults]

/-! ## What is read -/

/-- A field is in order and has no default that is null, at any depth. -/
structure Field.IsRead (field : Field) : Prop where
  ordered : field.IsOrdered
  settled : field.withoutNullDefaults = field

/-- A schema is in order and has no default that is null, at any depth. -/
structure ObjectSchema.IsRead (schema : ObjectSchema) : Prop where
  ordered : schema.IsOrdered
  settled : schema.withoutNullDefaults = schema

theorem Field.listIsOrdered_iff {fields : List Field} :
    Field.ListIsOrdered fields ↔ ∀ field ∈ fields, field.IsOrdered := by
  induction fields with
  | nil => simp [Field.ListIsOrdered]
  | cons field rest ih => rw [Field.ListIsOrdered, ih, List.forall_mem_cons]

theorem Field.namedIsOrdered_iff {fields : List (String × Field)} :
    Field.NamedIsOrdered fields ↔ ∀ entry ∈ fields, entry.2.IsOrdered := by
  induction fields with
  | nil => simp [Field.NamedIsOrdered]
  | cons entry rest ih => rw [Field.NamedIsOrdered, ih, List.forall_mem_cons]

theorem Field.listWithoutNullDefaults_eq_self {fields : List Field}
    (h : ∀ field ∈ fields, field.withoutNullDefaults = field) :
    Field.listWithoutNullDefaults fields = fields := by
  induction fields with
  | nil => rfl
  | cons field rest ih =>
    obtain ⟨hfield, hrest⟩ := List.forall_mem_cons.1 h
    rw [Field.listWithoutNullDefaults, hfield, ih hrest]

theorem Field.namedWithoutNullDefaults_eq_self {fields : List (String × Field)}
    (h : ∀ entry ∈ fields, entry.2.withoutNullDefaults = entry.2) :
    Field.namedWithoutNullDefaults fields = fields := by
  induction fields with
  | nil => rfl
  | cons entry rest ih =>
    obtain ⟨hentry, hrest⟩ := List.forall_mem_cons.1 h
    rw [Field.namedWithoutNullDefaults, hentry, ih hrest]

namespace ObjectSchema

theorem insertField_eq_insertNamed (fields : List (String × Field)) (name : String)
    (field : Field) : insertField fields name field = insertNamed (·.1) fields (name, field) := by
  induction fields with
  | nil => rfl
  | cons first rest ih => rw [insertField, insertNamed, ih]

/-- A field of a schema into which one is inserted is that one or was there before. -/
theorem mem_insert {schema : ObjectSchema} {name : String} {field : Field} {entry : String × Field}
    (h : entry ∈ (schema.insert name field).fields) :
    entry = (name, field) ∨ entry ∈ schema.fields := by
  rw [insert, insertField_eq_insertNamed] at h
  exact mem_insertNamed h

/-- Inserted fields stay in the order of their names. -/
theorem pairwise_insert {schema : ObjectSchema} (name : String) (field : Field)
    (ordered : schema.fields.Pairwise (·.1 < ·.1)) :
    (schema.insert name field).fields.Pairwise (·.1 < ·.1) := by
  rw [insert, insertField_eq_insertNamed]
  exact pairwise_insertNamed (name, field) ordered

theorem isRead_of_fields {schema : ObjectSchema} (ordered : schema.fields.Pairwise (·.1 < ·.1))
    (fields : ∀ entry ∈ schema.fields, entry.2.IsRead) : schema.IsRead := by
  obtain ⟨entries⟩ := schema
  constructor
  · exact ⟨List.pairwise_map.2 ordered,
      Field.namedIsOrdered_iff.2 fun entry hentry => (fields entry hentry).ordered⟩
  · exact congrArg ObjectSchema.mk
      (Field.namedWithoutNullDefaults_eq_self fun entry hentry => (fields entry hentry).settled)

/-- The fields of a schema are in the order of their names. -/
theorem pairwise_ofFields (fields : List (String × Field)) :
    (ofFields fields).fields.Pairwise (·.1 < ·.1) := by
  have hfold : ∀ schema : ObjectSchema, schema.fields.Pairwise (·.1 < ·.1) →
      (fields.foldl (fun schema entry => schema.insert entry.1 entry.2) schema).fields.Pairwise
        (·.1 < ·.1) := by
    induction fields with
    | nil => exact fun _ hordered => hordered
    | cons entry rest ih => exact fun _ hordered => ih _ (pairwise_insert _ _ hordered)
  exact hfold .empty List.Pairwise.nil

/-- The fields of a schema are among those that it is made of. -/
theorem mem_of_mem_ofFields {fields : List (String × Field)} {entry : String × Field}
    (h : entry ∈ (ofFields fields).fields) : entry ∈ fields := by
  have hfold : ∀ (fields : List (String × Field)) (schema : ObjectSchema),
      entry ∈ (fields.foldl (fun schema entry => schema.insert entry.1 entry.2) schema).fields →
        entry ∈ fields ∨ entry ∈ schema.fields := by
    intro fields
    induction fields with
    | nil => exact fun _ hentry => .inr hentry
    | cons first rest ih =>
      intro schema hentry
      rcases ih _ hentry with hrest | hinsert
      · exact .inl (List.mem_cons_of_mem _ hrest)
      · rcases mem_insert hinsert with rfl | hold
        · exact .inl List.mem_cons_self
        · exact .inr hold
  exact (hfold fields .empty h).resolve_right List.not_mem_nil

/-- The schema of fields that are read is read. -/
theorem isRead_ofFields {fields : List (String × Field)} (h : ∀ entry ∈ fields, entry.2.IsRead) :
    (ofFields fields).IsRead :=
  isRead_of_fields (pairwise_ofFields fields) fun entry hentry =>
    h entry (mem_of_mem_ofFields hentry)

end ObjectSchema

/-- The order of fields and the absence of null defaults pass from the fields inside to the whole. -/
theorem Field.isReadInvariant : IsReadInvariant (fun _ => True) Field.IsRead
    fun kind => kind.IsOrdered ∧ kind.withoutNullDefaults = kind where
  item _ _ _ := trivial
  member _ _ _ := trivial
  object hfields := by
    obtain ⟨hordered, hsettled⟩ := ObjectSchema.isRead_ofFields hfields
    exact ⟨hordered, congrArg FieldKind.object hsettled⟩
  array helement := ⟨helement.ordered, congrArg FieldKind.array helement.settled⟩
  union halternatives := by
    refine ⟨Field.listIsOrdered_iff.2 fun field hfield => (halternatives field hfield).ordered, ?_⟩
    exact congrArg FieldKind.union (Field.listWithoutNullDefaults_eq_self fun field hfield =>
      (halternatives field hfield).settled)
  boolean := ⟨trivial, rfl⟩
  number _ := ⟨trivial, rfl⟩
  string _ := ⟨trivial, rfl⟩
  whole hinner _ hpresent := by
    obtain ⟨hordered, hsettled⟩ := hinner
    refine ⟨hordered, ?_⟩
    rw [Field.withoutNullDefaults, hsettled, hpresent]

/-- A field that is read is in order and has no default that is null. -/
theorem Field.isRead_of_ofJson? {value : Json} {field : Field}
    (h : Field.ofJson? value = some field) : field.IsRead :=
  Field.isReadInvariant.of_ofJson? trivial h

/-- A schema that is read is in order and has no default that is null. -/
theorem ObjectSchema.isRead_of_ofJson? {value : Json} {schema : ObjectSchema}
    (h : ObjectSchema.ofJson? value = some schema) : schema.IsRead := by
  obtain ⟨hordered, hsettled⟩ := Field.isReadInvariant.of_schema trivial h
  exact ⟨hordered, FieldKind.object.inj hsettled⟩

end RelationalQuery
