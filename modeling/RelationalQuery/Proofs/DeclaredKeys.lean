import RelationalQuery.Proofs.Validation

/-!
# Declared keys of records

A key of an object is declared where the schema of the object has a field with this name.  Only an
extensible object may have other keys, and what stands below these is free.  The keys of a union
value have to be declared by an alternative that accepts the value.  A record with any other key, at
whatever depth, is refused by the validator of schemas.

Main definitions:

- `Field.Declares` says that a field declares all keys inside a value.
- `ObjectSchema.DeclaresMember` and `ObjectSchema.Declares` say this of members of objects.

Main results:

- `ObjectSchema.declares_of_validate`: the keys of a record that is valid in full are declared.
- `ObjectSchema.declares_of_withOptional`: this does not depend on which fields are optional.
-/

namespace RelationalQuery

/-! ## Declared keys -/

mutual

/-- A field declares all keys inside a value. -/
inductive Field.Declares : Field → Json → Prop
  | plain {field : Field} {value : Json} (members : value.members? = none)
      (items : value.items? = none) : field.Declares value
  | object {field : Field} {schema : ObjectSchema} {members : Members}
      (object : field.objectSchema? = some schema)
      (each : ∀ member ∈ members, schema.DeclaresMember field.extensible member) :
      field.Declares (.object members)
  | array {field element : Field} {items : List Json} (array : field.kind = .array element)
      (each : ∀ item ∈ items, element.Declares item) : field.Declares (.array items)
  | union {field alternative : Field} {alternatives : List Field} {value : Json} {path : String}
      (union : field.kind = .union alternatives) (mem : alternative ∈ alternatives)
      (accepts : alternative.validate value path .full = .ok ())
      (inner : alternative.Declares value) : field.Declares value

/-- A schema declares the key of a member and all keys inside its value, or an extensible object has
another key. -/
inductive ObjectSchema.DeclaresMember : ObjectSchema → Bool → String × Json → Prop
  | field {schema : ObjectSchema} {extensible : Bool} {member : String × Json} {field : Field}
      (known : schema.get? member.1 = some field) (inner : field.Declares member.2) :
      schema.DeclaresMember extensible member
  | extension {schema : ObjectSchema} {member : String × Json}
      (unknown : schema.get? member.1 = none) : schema.DeclaresMember true member

end

/-- A schema declares the keys of a record and all keys inside their values. -/
def ObjectSchema.Declares (schema : ObjectSchema) (record : Members) : Prop :=
  ∀ member ∈ record, schema.DeclaresMember false member

/-- What a field declares depends on its kind, and on whether its objects are extensible. -/
theorem Field.Declares.congr {field other : Field} {value : Json} (h : field.Declares value)
    (kind : field.kind = other.kind) (extensible : field.extensible = other.extensible) :
    other.Declares value := by
  cases h with
  | plain members items => exact .plain members items
  | object object each =>
    rw [objectSchema?, kind] at object
    rw [extensible] at each
    exact .object object each
  | array array each => exact .array (kind ▸ array) each
  | union union mem accepts inner => exact .union (kind ▸ union) mem accepts inner

/-! ## Valid values -/

/-- The field of a name in a list with a first entry is that of the entry, or one of the rest. -/
theorem ObjectSchema.DeclaresMember.cons {fields : List (String × Field)} {extensible : Bool}
    {member : String × Json} {name : String} {field : Field} (other : member.1 ≠ name)
    (h : ObjectSchema.DeclaresMember ⟨fields⟩ extensible member) :
    ObjectSchema.DeclaresMember ⟨(name, field) :: fields⟩ extensible member := by
  have hget : ObjectSchema.get? ⟨(name, field) :: fields⟩ member.1 =
      ObjectSchema.get? ⟨fields⟩ member.1 := by
    rw [ObjectSchema.get?, ObjectSchema.get?, List.lookup_cons, beq_false_of_ne other]
  cases h with
  | field known inner => exact .field (hget.trans known) inner
  | extension unknown => exact .extension (hget.trans unknown)

mutual

/-- A field declares the keys of a value that is valid in full. -/
theorem Field.declares_of_validate : ∀ (field : Field) {value : Json} {path : String},
    field.validate value path .full = .ok () → field.Declares value
  | ⟨kind, _, _, _, _⟩, value, _, h => by
    cases value with
    | null => exact .plain rfl rfl
    | bool _ | number _ | string _ | array _ | object _ =>
      rw [Field.validate] at h
      · exact kind.declares_of_validate h
      · nofun

theorem FieldKind.declares_of_validate : ∀ (kind : FieldKind) {optional nullable : Bool}
    {defaultValue : Option Json} {extensible : Bool} {value : Json} {path : String},
      kind.validate extensible value path .full = .ok () →
        Field.Declares ⟨kind, optional, nullable, defaultValue, extensible⟩ value
  | .boolean, _, _, _, _, value, _, h => by
    cases value with
    | null | bool _ | number _ | string _ => exact .plain rfl rfl
    | array _ | object _ => simp [FieldKind.validate, Json.bool?, ensure] at h
  | .number _, _, _, _, _, value, _, h => by
    cases value with
    | null | bool _ | number _ | string _ => exact .plain rfl rfl
    | array _ | object _ => simp [FieldKind.validate, ensure] at h
  | .string _, _, _, _, _, value, _, h => by
    cases value with
    | null | bool _ | number _ | string _ => exact .plain rfl rfl
    | array _ | object _ => simp [FieldKind.validate] at h
  | .object schema, _, _, _, _, value, _, h => by
    cases value with
    | null | bool _ | number _ | string _ => exact .plain rfl rfl
    | array _ => simp [FieldKind.validate] at h
    | object record =>
      rw [FieldKind.validate] at h
      exact .object rfl (schema.declares_members_of_validate h)
  | .array element, _, _, _, _, value, path, h => by
    cases value with
    | null | bool _ | number _ | string _ => exact .plain rfl rfl
    | object _ => simp [FieldKind.validate] at h
    | array items =>
      refine .array rfl fun item hitem => ?_
      let field : Field := ⟨.array element, false, false, none, false⟩
      have hfield : field.validate (.array items) path .full = .ok () := by
        rw [Field.validate]
        · exact h
        · nofun
      obtain ⟨_, hvalid⟩ := Field.validate_item rfl hfield hitem
      exact element.declares_of_validate hvalid
  | .union alternatives, _, _, _, _, value, path, h => by
    have haccepted : Field.anyAccepts alternatives value path .full = true := by
      simpa [FieldKind.validate, ensure] using h
    obtain ⟨alternative, hmem, hvalid, hdeclares⟩ :=
      Field.declares_of_anyAccepts alternatives haccepted
    exact .union rfl hmem hvalid hdeclares

/-- Some alternative that accepts a value declares its keys. -/
theorem Field.declares_of_anyAccepts : ∀ (alternatives : List Field) {value : Json}
    {path : String}, Field.anyAccepts alternatives value path .full = true →
      ∃ alternative ∈ alternatives, alternative.validate value path .full = .ok () ∧
        alternative.Declares value
  | [], _, _, h => by simp [Field.anyAccepts] at h
  | first :: rest, value, path, h => by
    rw [Field.anyAccepts, Bool.or_eq_true] at h
    rcases h with hfirst | hrest
    · cases hvalid : first.validate value path .full with
      | error _ => simp [hvalid, Except.isOk, Except.toBool] at hfirst
      | ok _ => exact ⟨first, List.mem_cons_self, hvalid, first.declares_of_validate hvalid⟩
    · obtain ⟨alternative, hmem, hdeclares⟩ := Field.declares_of_anyAccepts rest hrest
      exact ⟨alternative, List.mem_cons_of_mem _ hmem, hdeclares⟩

theorem ObjectSchema.declares_members_of_validate : ∀ (schema : ObjectSchema)
    {extensible : Bool} {record : Members} {path : String},
      schema.validate extensible record path .full = .ok () →
        ∀ member ∈ record, schema.DeclaresMember extensible member
  | ⟨fields⟩, _, _, _, h => by
    rw [ObjectSchema.validate, bind_eq_ok_iff] at h
    obtain ⟨_, hmembers, -⟩ := h
    exact fun member hmember =>
      Field.declares_of_validateNamed fields (forM_eq_ok_iff.1 hmembers member hmember)

theorem Field.declares_of_validateNamed : ∀ (fields : List (String × Field)) {extensible : Bool}
    {member : String × Json} {path : String},
      Field.validateNamed fields extensible member.1 member.2 path .full = .ok () →
        ObjectSchema.DeclaresMember ⟨fields⟩ extensible member
  | [], extensible, _, _, h => by
    rw [Field.validateNamed] at h
    split at h
    · rename_i hextensible
      rw [hextensible]
      exact .extension rfl
    · simp at h
  | (name, field) :: rest, _, member, _, h => by
    rw [Field.validateNamed] at h
    split at h
    · rename_i hname
      have hknown : ObjectSchema.get? ⟨(name, field) :: rest⟩ member.1 = some field := by
        rw [ObjectSchema.get?, hname, List.lookup_cons_self]
      exact .field hknown (field.declares_of_validate h)
    · rename_i hother
      exact (Field.declares_of_validateNamed rest h).cons hother

end

namespace ObjectSchema

variable {schema : ObjectSchema} {record : Members} {path : String}

/-- The keys of a record that is valid in full are declared. -/
theorem declares_of_validate (h : schema.validate false record path .full = .ok ()) :
    schema.Declares record :=
  schema.declares_members_of_validate h

/-- Fields that are made optional keep their names. -/
theorem get?_withOptional (schema : ObjectSchema) (names : List String) (name : String) :
    (schema.withOptional names).get? name = (schema.get? name).map fun field =>
      if names.contains name then { field with optional := true } else field := by
  obtain ⟨fields⟩ := schema
  unfold withOptional get?
  induction fields with
  | nil => rfl
  | cons entry rest ih =>
    rw [List.map_cons, List.lookup_cons, List.lookup_cons]
    by_cases hname : name = entry.1
    · rw [hname, beq_self_eq_true]
      rfl
    · rw [beq_false_of_ne hname]
      exact ih

/-- What fields declare does not depend on whether they are optional. -/
theorem declares_of_withOptional {names : List String}
    (h : (schema.withOptional names).Declares record) : schema.Declares record := by
  intro member hmember
  cases h member hmember with
  | field known inner =>
    rw [get?_withOptional, Option.map_eq_some_iff] at known
    obtain ⟨field, hknown, rfl⟩ := known
    refine .field hknown (inner.congr ?_ ?_)
    · split <;> rfl
    · split <;> rfl

end ObjectSchema

end RelationalQuery
