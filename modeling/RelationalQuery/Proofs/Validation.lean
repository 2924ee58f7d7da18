import RelationalQuery.Proofs.Computation
import RelationalQuery.Validation

/-!
# What valid values do not hold

The validator of schemas admits more in a record that is partial than in a full one: a number may be
given as an operation, which is an object, and required members may be absent.  It admits this at
any depth and leaves it to the compiler to make sense of it.  Full records have neither, and the
items of arrays are always full.

Main definitions:

- `Field.Within` says that some part of a value has a fault; `Field.ObjectFault` are the faults of
  objects that full records do not have.
- `Field.Misplaces` says that a value has an object in the place of a number.
- `Field.Lacks` and `ObjectSchema.Lacks` say that a value lacks a required member.

Main results:

- `Field.ObjectFault.not_within_of_validate`: no part of a value that is valid in full has a fault.
- `Field.ObjectFault.of_within`: a valid part of a record with a fault inside is an object.
- `ObjectSchema.not_lacks_of_validate`: a record that is valid in full lacks no member.
-/

namespace RelationalQuery

/-! ## Fields of valid records -/

/-- The check of a member is the check of its field. -/
theorem Field.validateNamed_of_lookup {fields : List (String × Field)} {name path : String}
    {field : Field} (known : fields.lookup name = some field) (extensible : Bool) (value : Json)
    (mode : ValidationMode) :
    Field.validateNamed fields extensible name value path mode =
      field.validate value path mode := by
  induction fields with
  | nil => simp at known
  | cons entry rest ih =>
    obtain ⟨other, first⟩ := entry
    rw [Field.validateNamed]
    by_cases hname : name = other
    · subst hname
      rw [List.lookup_cons_self, Option.some.injEq] at known
      rw [if_pos rfl, known]
    · rw [if_neg hname]
      rw [List.lookup_cons, beq_false_of_ne hname] at known
      exact ih known

/-- The members of a valid record are valid values of their fields. -/
theorem ObjectSchema.validate_member {schema : ObjectSchema} {extensible : Bool} {record : Members}
    {path : String} {mode : ValidationMode} {entry : String × Json} {field : Field}
    (valid : schema.validate extensible record path mode = .ok ()) (member : entry ∈ record)
    (known : schema.get? entry.1 = some field) :
    field.validate entry.2 (joinPath path entry.1) mode = .ok () := by
  obtain ⟨fields⟩ := schema
  rw [ObjectSchema.validate, bind_eq_ok_iff] at valid
  obtain ⟨_, hmembers, -⟩ := valid
  have hentry := forM_eq_ok_iff.1 hmembers entry member
  rwa [Field.validateNamed_of_lookup known] at hentry

/-- The items of a valid array are valid in full. -/
theorem Field.validate_item {field element : Field} {items : List Json} {item : Json}
    {path : String} {mode : ValidationMode} (array : field.kind = .array element)
    (valid : field.validate (.array items) path mode = .ok ()) (mem : item ∈ items) :
    ∃ index, element.validate item (itemPath path index) .full = .ok () := by
  obtain ⟨kind, _, _, _, _⟩ := field
  obtain rfl : kind = _ := array
  rw [Field.validate, FieldKind.validate] at valid
  · obtain ⟨index, hindex, hitem⟩ := List.mem_iff_getElem.1 mem
    have hmem : (item, index) ∈ items.zipIdx := by
      rw [List.mem_zipIdx_iff_getElem?, List.getElem?_eq_getElem hindex, hitem]
    exact ⟨index, forM_eq_ok_iff.1 valid (item, index) hmem⟩
  · simp

/-! ## Faults inside values -/

/-- A part of a value has a fault: the value itself, or a part of one of its members or items.
Unions are not looked into. -/
inductive Field.Within (fault : Field → Json → Prop) : Field → Json → Prop
  | here {field : Field} {value : Json} (h : fault field value) : field.Within fault value
  | member {field inner : Field} {schema : ObjectSchema} {members : Members} {entry : String × Json}
      (object : field.objectSchema? = some schema) (mem : entry ∈ members)
      (known : schema.get? entry.1 = some inner) (inside : inner.Within fault entry.2) :
      field.Within fault (.object members)
  | item {field element : Field} {items : List Json} {item : Json}
      (array : field.kind = .array element) (mem : item ∈ items)
      (inside : element.Within fault item) : field.Within fault (.array items)

/-- A fault that only objects have, in the place of a number or of an object, and that no value has
that is valid in full. -/
structure Field.ObjectFault (fault : Field → Json → Prop) : Prop where
  kind {field : Field} {value : Json} (h : fault field value) :
    field.isNumber = true ∨ field.isObject = true
  object {field : Field} {value : Json} (h : fault field value) : ∃ members, value = .object members
  excluded {field : Field} {value : Json} {path : String}
    (valid : field.validate value path .full = .ok ()) : ¬ fault field value

namespace Field

variable {fault : Field → Json → Prop} {field : Field} {value : Json} {path : String}

/-- The check of a record of a field is the check of its schema. -/
theorem validate_object {schema : ObjectSchema} {members : Members} {mode : ValidationMode}
    (object : field.objectSchema? = some schema) :
    field.validate (.object members) path mode =
      schema.validate field.extensible members path mode := by
  obtain ⟨kind, _, _, _, _⟩ := field
  cases kind <;> simp [objectSchema?] at object
  subst object
  rw [validate, FieldKind.validate]
  simp

/-- A valid value of an object that is not nullable is an object. -/
theorem exists_members_of_validate {mode : ValidationMode} (object : field.isObject = true)
    (nonnull : field.nullable = false) (valid : field.validate value path mode = .ok ()) :
    ∃ members, value = .object members := by
  obtain ⟨kind, _, _, _, _⟩ := field
  cases kind <;> simp [isObject, objectSchema?] at object
  subst nonnull
  cases value with
  | object members => exact ⟨members, rfl⟩
  | _ => simp [validate, FieldKind.validate, ensure] at valid

/-- No part of a value that is valid in full has a fault. -/
theorem ObjectFault.not_within_of_validate (faulty : ObjectFault fault)
    (valid : field.validate value path .full = .ok ()) : ¬ field.Within fault value := by
  intro within
  induction within generalizing path with
  | here h => exact faulty.excluded valid h
  | member object mem known _ ih =>
    rw [validate_object object] at valid
    exact ih (ObjectSchema.validate_member valid mem known)
  | item array mem _ ih =>
    obtain ⟨_, hitem⟩ := validate_item array valid mem
    exact ih hitem

/-- A valid part of a record with a fault inside is an object, of a number or of an object. -/
theorem ObjectFault.of_within (faulty : ObjectFault fault)
    (valid : field.validate value path .partialRecord = .ok ())
    (within : field.Within fault value) :
    (field.isNumber = true ∨ field.isObject = true) ∧ ∃ members, value = .object members := by
  cases within with
  | here h => exact ⟨faulty.kind h, faulty.object h⟩
  | member object => exact ⟨.inr (by rw [isObject, object, Option.isSome_some]), _, rfl⟩
  | item array mem inside =>
    -- The items of an array are checked as full records.
    obtain ⟨_, hitem⟩ := validate_item array valid mem
    exact absurd inside (faulty.not_within_of_validate hitem)

end Field

/-! ## Objects in the place of numbers -/

/-- A value of a field has an object in the place of a number: it is such an object itself, or one
of its members or items has one. -/
inductive Field.Misplaces : Field → Json → Prop
  | number {field : Field} {members : Members} (number : field.isNumber = true) :
      field.Misplaces (.object members)
  | member {field inner : Field} {schema : ObjectSchema} {members : Members} {entry : String × Json}
      (object : field.objectSchema? = some schema) (mem : entry ∈ members)
      (known : schema.get? entry.1 = some inner) (misplaced : inner.Misplaces entry.2) :
      field.Misplaces (.object members)
  | item {field element : Field} {items : List Json} {item : Json}
      (array : field.kind = .array element) (mem : item ∈ items)
      (misplaced : element.Misplaces item) : field.Misplaces (.array items)

namespace Field

/-- An object is the value of a number. -/
def IsMisplaced (field : Field) (value : Json) : Prop :=
  field.isNumber = true ∧ ∃ members, value = .object members

theorem objectFault_isMisplaced : ObjectFault IsMisplaced where
  kind h := .inl h.1
  object h := h.2
  excluded := by
    rintro field _ _ valid ⟨number, members, rfl⟩
    obtain ⟨kind, _, _, _, _⟩ := field
    cases kind <;> simp [isNumber] at number
    simp [validate, FieldKind.validate, ensure] at valid

theorem Misplaces.within {field : Field} {value : Json} (h : field.Misplaces value) :
    field.Within IsMisplaced value := by
  induction h with
  | number number => exact .here ⟨number, _, rfl⟩
  | member object mem known _ ih => exact .member object mem known ih
  | item array mem _ ih => exact .item array mem ih

end Field

/-! ## Required members -/

namespace Field

/-- An object lacks a required member of its own. -/
def LacksMember (field : Field) (value : Json) : Prop :=
  ∃ schema members, field.objectSchema? = some schema ∧ value = .object members ∧
    ∃ entry ∈ schema.fields, entry.2.isRequired = true ∧ Members.contains members entry.1 = false

/-- A value lacks a required member: it does so itself, or one of its members or items does. -/
def Lacks (field : Field) (value : Json) : Prop := field.Within LacksMember value

theorem objectFault_lacksMember : ObjectFault LacksMember where
  kind := by
    rintro field _ ⟨_, _, object, -, -⟩
    exact .inr (by rw [isObject, object, Option.isSome_some])
  object := by
    rintro _ _ ⟨_, members, -, value, -⟩
    exact ⟨members, value⟩
  excluded := by
    rintro field _ _ valid ⟨⟨fields⟩, members, object, rfl, entry, mem, required, absent⟩
    rw [validate_object object, ObjectSchema.validate, bind_eq_ok_iff] at valid
    obtain ⟨_, -, hrequired⟩ := valid
    rw [if_pos rfl] at hrequired
    have hentry := forM_eq_ok_iff.1 hrequired entry mem
    simp [ensure, required, absent] at hentry

end Field

/-- A record lacks a required member: one of its own, or one inside a value. -/
def ObjectSchema.Lacks (schema : ObjectSchema) (record : Members) : Prop :=
  (∃ entry ∈ schema.fields, entry.2.isRequired = true ∧ record.contains entry.1 = false) ∨
    ∃ entry ∈ record, ∃ field, schema.get? entry.1 = some field ∧ field.Lacks entry.2

/-- Only objects and arrays lack members. -/
theorem Field.Lacks.object_or_array {field : Field} {value : Json} (h : field.Lacks value) :
    (∃ members, value = .object members) ∨ ∃ items, value = .array items := by
  cases h with
  | here h => exact .inl (objectFault_lacksMember.object h)
  | member => exact .inl ⟨_, rfl⟩
  | item => exact .inr ⟨_, rfl⟩

/-- An object that lacks a member has a schema. -/
theorem Field.Lacks.exists_schema {field : Field} {members : Members}
    (h : field.Lacks (.object members)) : ∃ schema, field.objectSchema? = some schema := by
  cases h with
  | here h =>
    obtain ⟨schema, _, object, -⟩ := h
    exact ⟨schema, object⟩
  | member object => exact ⟨_, object⟩

/-- An object lacks a member if it does so as a record. -/
theorem Field.lacks_object_iff {field : Field} {schema : ObjectSchema} {members : Members}
    (object : field.objectSchema? = some schema) :
    field.Lacks (.object members) ↔ schema.Lacks members := by
  constructor
  · intro h
    cases h with
    | here h =>
      obtain ⟨found, _, hfound, hmembers, hlacks⟩ := h
      obtain rfl : found = schema := Option.some.inj (hfound.symm.trans object)
      obtain rfl := Json.object.inj hmembers
      exact .inl hlacks
    | member hfound mem known inside =>
      rename_i found _
      obtain rfl : found = schema := Option.some.inj (hfound.symm.trans object)
      exact .inr ⟨_, mem, _, known, inside⟩
  · rintro (hlacks | ⟨entry, mem, inner, known, inside⟩)
    · exact .here ⟨schema, members, object, rfl, hlacks⟩
    · exact .member object mem known inside

/-- A record that is valid in full lacks no member. -/
theorem ObjectSchema.not_lacks_of_validate {schema : ObjectSchema} {extensible : Bool}
    {record : Members} {path : String}
    (valid : schema.validate extensible record path .full = .ok ()) : ¬ schema.Lacks record := by
  let field : Field := ⟨.object schema, false, false, none, extensible⟩
  have hobject : field.objectSchema? = some schema := rfl
  have hvalid : field.validate (.object record) path .full = .ok () := by
    rw [Field.validate_object hobject]
    exact valid
  rw [← Field.lacks_object_iff hobject]
  exact Field.objectFault_lacksMember.not_within_of_validate hvalid

end RelationalQuery
