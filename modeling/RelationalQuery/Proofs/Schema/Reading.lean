import RelationalQuery.Json.Record
import RelationalQuery.Proofs.Json.DistinctNames
import RelationalQuery.Schema.Written

/-!
# Fields that are read

A field is read together with the fields inside of it, so what holds of every field that is read is
shown for one field, from what holds of the fields inside of it and of the values that it is read
of.

Main definitions:

- `IsReadInvariant` says what has to be shown of one field.

Main results:

- `IsReadInvariant.of_ofJson?`: then it holds of every field that is read.
- `IsReadInvariant.of_schema`: and of the fields of a schema that is read.
-/

namespace RelationalQuery

/-- A property of values passes to their parts, and properties of fields and kinds pass from the
fields inside and the default to the whole. -/
structure IsReadInvariant (value : Json → Prop) (field : Field → Prop) (kind : FieldKind → Prop) :
    Prop where
  item : ∀ {items}, value (.array items) → ∀ item ∈ items, value item
  member : ∀ {members}, value (.object members) → ∀ member ∈ members, value member.2
  object : ∀ {fields : List (String × Field)}, (∀ entry ∈ fields, field entry.2) →
    kind (.object (ObjectSchema.ofFields fields))
  array : ∀ {element}, field element → kind (.array element)
  union : ∀ {alternatives : List Field}, (∀ alternative ∈ alternatives, field alternative) →
    kind (.union alternatives)
  boolean : kind .boolean
  number : ∀ format, kind (.number format)
  string : ∀ format, kind (.string format)
  whole : ∀ {inner optional nullable defaultValue extensible}, kind inner →
    (∀ default ∈ defaultValue, value default) → Json.present? defaultValue = defaultValue →
      field ⟨inner, optional, nullable, defaultValue, extensible⟩

/-- The values and the fields that a draft has read have a property. -/
structure FieldDraft.Holds (value : Json → Prop) (field : Field → Prop) (draft : FieldDraft) :
    Prop where
  definitions : ∀ definitions ∈ draft.definitions, value definitions
  properties : ∀ fields, draft.properties = some (some fields) → ∀ entry ∈ fields, field entry.2
  element : ∀ element, draft.element = some (some element) → field element
  elements : ∀ fields, draft.elements = some (some fields) → ∀ element ∈ fields, field element

@[simp]
theorem Json.present?_present? (value? : Option Json) :
    present? (present? value?) = present? value? := by
  rcases value? with _ | _ | _ | _ | _ | _ | _ <;> rfl

theorem Json.eq_of_present? {value? : Option Json} {value : Json}
    (h : present? value? = some value) : value? = some value := by
  rcases value? with _ | _ | _ | _ | _ | _ | _ <;> first | exact h | cases h

namespace IsReadInvariant

variable {value : Json → Prop} {field : Field → Prop} {kind : FieldKind → Prop}

section

variable (invariant : IsReadInvariant value field kind)

include invariant

/-- The parts of a record have what their record has. -/
theorem of_record? {record : Json} {openness : Json.Openness} {names : List String}
    {parts : List (Option Json)} (hrecord : value record)
    (h : record.record? openness names = some parts) : ∀ part, some part ∈ parts → value part := by
  intro part hpart
  unfold Json.record? at h
  split at h
  · split_ifs at h
    cases h
    obtain ⟨name, -, hname⟩ := List.mem_map.1 hpart
    exact invariant.member hrecord _ (Entries.mem_of_lookup hname)
  · split_ifs at h
    cases h
    rcases List.mem_append.1 hpart with hitem | hnone
    · obtain ⟨item, hitem, heq⟩ := List.mem_map.1 hitem
      cases heq
      exact invariant.item hrecord _ hitem
    · cases List.eq_of_mem_replicate hnone
  · cases h

variable {draft : FieldDraft} (holds : draft.Holds value field)

include holds

/-- The kind of a draft has what the fields inside of it have. -/
theorem of_kind? {inner : FieldKind} (h : draft.kind? = some inner) : kind inner := by
  simp only [FieldDraft.kind?, Option.bind_eq_bind, Option.bind_eq_some_iff] at h
  obtain ⟨type, -, h⟩ := h
  cases type with
  | object =>
    obtain ⟨fields, hfields, h⟩ := Option.bind_eq_some_iff.1 h
    cases h
    cases hproperties : draft.properties with
    | none =>
      rw [hproperties] at hfields
      cases hfields
      exact invariant.object (List.forall_mem_nil _)
    | some properties =>
      rw [hproperties, Option.getD_some] at hfields
      exact invariant.object (holds.properties fields (hfields ▸ hproperties))
  | array =>
    obtain ⟨element, helement, h⟩ := Option.bind_eq_some_iff.1 h
    cases h
    exact invariant.array (holds.element element (Option.join_eq_some_iff.1 helement))
  | union =>
    obtain ⟨fields, hfields, h⟩ := Option.bind_eq_some_iff.1 h
    cases h
    exact invariant.union (holds.elements fields (Option.join_eq_some_iff.1 hfields))
  | boolean =>
    cases h
    exact invariant.boolean
  | number =>
    obtain ⟨format, -, h⟩ := Option.bind_eq_some_iff.1 h
    cases h
    exact invariant.number _
  | string =>
    obtain ⟨format, -, h⟩ := Option.bind_eq_some_iff.1 h
    cases h
    exact invariant.string _

/-- The default of a draft is not null, and it has what the definitions have. -/
theorem of_definitions? {defaultValue : Option Json} {extensible : Bool}
    (h : draft.definitions? = some (defaultValue, extensible)) :
    (∀ default ∈ defaultValue, value default) ∧ Json.present? defaultValue = defaultValue := by
  unfold FieldDraft.definitions? at h
  split at h
  · cases h
    refine ⟨fun default hdefault => ?_, rfl⟩
    cases hdefault
  · rename_i definitions hdefinitions
    obtain ⟨record, hrecord, h⟩ := Option.bind_eq_some_iff.1 h
    split at h
    · obtain ⟨flag, -, h⟩ := Option.bind_eq_some_iff.1 h
      cases h
      refine ⟨fun default hdefault => ?_, Json.present?_present? _⟩
      refine invariant.of_record? (holds.definitions _ hdefinitions) hrecord _ ?_
      rw [Json.eq_of_present? hdefault]
      exact List.mem_cons_self
    · cases h

/-- The field of a draft has what the fields inside of it have. -/
theorem of_field? {whole : Field} (h : draft.field? = some whole) : field whole := by
  simp only [FieldDraft.field?, Option.bind_eq_bind, Option.bind_eq_some_iff] at h
  obtain ⟨inner, hinner, optional, -, nullable, -, ⟨defaultValue, extensible⟩, hdefinitions, h⟩ := h
  cases h
  obtain ⟨hdefault, hpresent⟩ := invariant.of_definitions? holds hdefinitions
  exact invariant.whole (invariant.of_kind? holds hinner) hdefault hpresent

end

mutual

/-- A field that is read has the property. -/
theorem of_ofJson? (invariant : IsReadInvariant value field kind) : ∀ {json : Json}
    {whole : Field}, value json → Field.ofJson? json = some whole → field whole
  | .object members, whole, hjson, h => by
    rw [Field.ofJson?] at h
    exact invariant.of_field? (invariant.of_draft members (invariant.member hjson)) h
  | .null, _, _, h | .bool _, _, _, h | .number _, _, _, h | .string _, _, _, h
  | .array _, _, _, h => by
    simp [Field.ofJson?] at h

/-- The parts of a draft are read. -/
theorem of_draft (invariant : IsReadInvariant value field kind) : ∀ members : List (String × Json),
    (∀ member ∈ members, value member.2) → (Field.draft members).Holds value field
  | [], _ => ⟨nofun, nofun, nofun, nofun⟩
  | (key, json) :: rest, hmembers => by
    obtain ⟨hjson, hmembers⟩ := List.forall_mem_cons.1 hmembers
    have hrest := invariant.of_draft rest hmembers
    have hdefinitions : ∀ definitions ∈ some json, value definitions := fun _ h =>
      Option.some.inj h ▸ hjson
    have hnamed : ∀ fields, some (Field.namedOfJson? json) = some (some fields) →
        ∀ entry ∈ fields, field entry.2 := fun _ h =>
      invariant.of_namedOfJson? hjson (Option.some.inj h)
    have helement : ∀ element, some (Field.ofJson? json) = some (some element) → field element :=
      fun _ h => invariant.of_ofJson? hjson (Option.some.inj h)
    have hlist : ∀ fields, some (Field.listOfJson? json) = some (some fields) →
        ∀ element ∈ fields, field element := fun _ h =>
      invariant.of_listOfJson? hjson (Option.some.inj h)
    rw [Field.draft]
    -- A key replaces one part, and only four of the parts hold values or fields.
    split_ifs <;> constructor
    all_goals first
      | exact hrest.definitions
      | exact hrest.properties
      | exact hrest.element
      | exact hrest.elements
      | exact hdefinitions
      | exact hnamed
      | exact helement
      | exact hlist

/-- Fields that are read have the property. -/
theorem of_listOfJson? (invariant : IsReadInvariant value field kind) : ∀ {json : Json}
    {fields : List Field}, value json → Field.listOfJson? json = some fields →
      ∀ element ∈ fields, field element
  | .array items, fields, hjson, h => by
    rw [Field.listOfJson?] at h
    exact invariant.of_ofItems? (invariant.item hjson) h
  | .null, _, _, h | .bool _, _, _, h | .number _, _, _, h | .string _, _, _, h
  | .object _, _, _, h => by
    simp [Field.listOfJson?] at h

/-- Fields that are read one by one have the property. -/
theorem of_ofItems? (invariant : IsReadInvariant value field kind) : ∀ {items : List Json}
    {fields : List Field}, (∀ item ∈ items, value item) → Field.ofItems? items = some fields →
      ∀ element ∈ fields, field element
  | [], fields, _, h => by
    cases h
    exact List.forall_mem_nil _
  | item :: rest, fields, hitems, h => by
    simp only [Field.ofItems?, Option.bind_eq_bind, Option.bind_eq_some_iff] at h
    obtain ⟨first, hfirst, others, hothers, hfields⟩ := h
    cases hfields
    obtain ⟨hitem, hrest⟩ := List.forall_mem_cons.1 hitems
    exact List.forall_mem_cons.2
      ⟨invariant.of_ofJson? hitem hfirst, invariant.of_ofItems? hrest hothers⟩

/-- Named fields that are read have the property. -/
theorem of_namedOfJson? (invariant : IsReadInvariant value field kind) : ∀ {json : Json}
    {fields : List (String × Field)}, value json → Field.namedOfJson? json = some fields →
      ∀ entry ∈ fields, field entry.2
  | .object members, fields, hjson, h => by
    rw [Field.namedOfJson?] at h
    exact invariant.of_ofMembers? (invariant.member hjson) h
  | .null, _, _, h | .bool _, _, _, h | .number _, _, _, h | .string _, _, _, h
  | .array _, _, _, h => by
    simp [Field.namedOfJson?] at h

/-- Named fields that are read one by one have the property. -/
theorem of_ofMembers? (invariant : IsReadInvariant value field kind) :
    ∀ {members : List (String × Json)} {fields : List (String × Field)},
    (∀ member ∈ members, value member.2) → Field.ofMembers? members = some fields →
      ∀ entry ∈ fields, field entry.2
  | [], fields, _, h => by
    cases h
    exact List.forall_mem_nil _
  | (name, json) :: rest, fields, hmembers, h => by
    simp only [Field.ofMembers?, Option.bind_eq_bind, Option.bind_eq_some_iff] at h
    obtain ⟨first, hfirst, others, hothers, hfields⟩ := h
    cases hfields
    obtain ⟨hjson, hrest⟩ := List.forall_mem_cons.1 hmembers
    exact List.forall_mem_cons.2
      ⟨invariant.of_ofJson? hjson hfirst, invariant.of_ofMembers? hrest hothers⟩

end

/-- A schema that is read has, as a kind, the property of kinds. -/
theorem of_schema (invariant : IsReadInvariant value field kind) {json : Json}
    {schema : ObjectSchema} (hjson : value json) (h : ObjectSchema.ofJson? json = some schema) :
    kind (.object schema) := by
  unfold ObjectSchema.ofJson? at h
  obtain ⟨record, hrecord, h⟩ := Option.bind_eq_some_iff.1 h
  split at h
  · cases h
    exact invariant.object (List.forall_mem_nil _)
  · rename_i properties
    obtain ⟨fields, hfields, h⟩ := Option.bind_eq_some_iff.1 h
    cases h
    have hproperties := invariant.of_record? hjson hrecord properties List.mem_cons_self
    exact invariant.object (invariant.of_namedOfJson? hproperties hfields)
  · cases h

end IsReadInvariant

end RelationalQuery
