import RelationalQuery.Proofs.Json.Text
import RelationalQuery.Proofs.Schema.Written

/-!
# Defaults of schemas

The JSON of a schema consists of fixed words and flags, of the names of its fields and of its
defaults.  So no object of it repeats a name if no object of its defaults does, and a default that
is null adds no double and no container to it.

Main definitions:

- `ObjectSchema.defaults` and its companions are the defaults of all fields, at any depth.
- `Field.HasDistinctNames` and `ObjectSchema.HasDistinctNames` say that no object inside a default
  repeats a name.

Main results:

- `Field.hasDistinctNames_toJson` and `ObjectSchema.hasDistinctNames_toJson`: neither does the JSON
  of a field or a schema.
- `Field.hasDistinctNames_of_ofJson?` and `ObjectSchema.hasDistinctNames_of_ofJson?`: what is read
  of a value without repeated names has none.
- `Field.sameExtent_withoutNullDefaults` and `ObjectSchema.sameExtent_withoutNullDefaults`: leaving
  out the defaults that are null keeps the doubles and the depth of the JSON.
-/

namespace RelationalQuery

mutual

/-- The defaults inside a kind. -/
def FieldKind.defaults : FieldKind → List Json
  | .object schema => schema.defaults
  | .array element => element.defaults
  | .union alternatives => Field.listDefaults alternatives
  | .boolean | .number _ | .string _ => []

/-- The default of a field and those inside its kind. -/
def Field.defaults : Field → List Json
  | ⟨kind, _, _, defaultValue, _⟩ => defaultValue.toList ++ kind.defaults

/-- The defaults of fields. -/
def Field.listDefaults : List Field → List Json
  | [] => []
  | field :: rest => field.defaults ++ Field.listDefaults rest

/-- The defaults of named fields. -/
def Field.namedDefaults : List (String × Field) → List Json
  | [] => []
  | (_, field) :: rest => field.defaults ++ Field.namedDefaults rest

/-- The defaults of all fields of a schema, at any depth. -/
def ObjectSchema.defaults : ObjectSchema → List Json
  | ⟨fields⟩ => Field.namedDefaults fields

end

/-- No object inside a default of a kind repeats a name. -/
def FieldKind.HasDistinctNames (kind : FieldKind) : Prop :=
  ∀ value ∈ kind.defaults, value.hasDistinctNames = true

/-- No object inside a default of a field repeats a name. -/
def Field.HasDistinctNames (field : Field) : Prop :=
  ∀ value ∈ field.defaults, value.hasDistinctNames = true

/-- No object inside a default of a schema repeats a name. -/
def ObjectSchema.HasDistinctNames (schema : ObjectSchema) : Prop :=
  ∀ value ∈ schema.defaults, value.hasDistinctNames = true

theorem Field.hasDistinctNames_mk {kind : FieldKind} {optional nullable extensible : Bool}
    {defaultValue : Option Json} :
    (Field.mk kind optional nullable defaultValue extensible).HasDistinctNames ↔
      (∀ value ∈ defaultValue, value.hasDistinctNames = true) ∧ kind.HasDistinctNames := by
  simp only [Field.HasDistinctNames, Field.defaults, List.forall_mem_append, Option.mem_toList,
    Option.mem_def, FieldKind.HasDistinctNames]

theorem Field.listHasDistinctNames_iff {fields : List Field} :
    (∀ value ∈ Field.listDefaults fields, value.hasDistinctNames = true) ↔
      ∀ field ∈ fields, field.HasDistinctNames := by
  induction fields with
  | nil => simp [Field.listDefaults]
  | cons field rest ih =>
    rw [Field.listDefaults, List.forall_mem_append, ih, List.forall_mem_cons,
      Field.HasDistinctNames]

theorem ObjectSchema.hasDistinctNames_iff {schema : ObjectSchema} :
    schema.HasDistinctNames ↔ ∀ entry ∈ schema.fields, entry.2.HasDistinctNames := by
  obtain ⟨fields⟩ := schema
  rw [ObjectSchema.HasDistinctNames, ObjectSchema.defaults]
  induction fields with
  | nil => simp [Field.namedDefaults]
  | cons entry rest ih =>
    rw [Field.namedDefaults, List.forall_mem_append, ih, List.forall_mem_cons,
      Field.HasDistinctNames]

/-! ## Names in the JSON of a schema -/

/-- The members of a field are named once each. -/
theorem FieldKind.nodup_keys (kind : FieldKind) (optional nullable definitions : Json) :
    (Members.keys (kind.members ++
      [("optional", optional), ("nullable", nullable), ("definitions", definitions)])).Nodup := by
  rcases kind with schema | element | alternatives | _ | (_ | format) | (_ | format) <;>
    simp [FieldKind.members, Members.keys]

/-- No object inside the definitions of a field repeats a name if none inside its default does. -/
theorem Field.hasDistinctNames_definitions {field : Field}
    (h : ∀ value ∈ field.defaultValue, value.hasDistinctNames = true) :
    (Json.object field.definitionMembers).hasDistinctNames = true := by
  obtain ⟨kind, optional, nullable, defaultValue, extensible⟩ := field
  rw [Json.hasDistinctNames_object]
  cases defaultValue with
  | none => simp [Field.definitionMembers, Members.keys, Json.hasDistinctNames]
  | some value => simp [Field.definitionMembers, Members.keys, Json.hasDistinctNames, h value rfl]

theorem Field.keys_namedToMembers (fields : List (String × Field)) :
    Members.keys (Field.namedToMembers fields) = fields.map Prod.fst := by
  induction fields with
  | nil => rfl
  | cons entry rest ih =>
    rw [Members.keys] at ih ⊢
    rw [Field.namedToMembers, List.map_cons, List.map_cons, ih]

mutual

/-- No object inside the JSON of a field repeats a name. -/
theorem Field.hasDistinctNames_toJson : ∀ (field : Field), field.IsOrdered →
    field.HasDistinctNames → field.toJson.hasDistinctNames = true
  | ⟨kind, optional, nullable, defaultValue, extensible⟩, ordered, distinct => by
    obtain ⟨hdefault, hkind⟩ := Field.hasDistinctNames_mk.1 distinct
    have hdefinitions := Field.hasDistinctNames_definitions
      (show ∀ value ∈ (Field.mk kind optional nullable defaultValue extensible).defaultValue,
        value.hasDistinctNames = true from hdefault)
    rw [Field.toJson, Json.hasDistinctNames_object]
    refine ⟨kind.nodup_keys _ _ _, List.forall_mem_append.2
      ⟨kind.hasDistinctNames_members ordered hkind, ?_⟩⟩
    exact List.forall_mem_cons.2 ⟨rfl, List.forall_mem_cons.2 ⟨rfl,
      List.forall_mem_singleton.2 hdefinitions⟩⟩

/-- No object inside the members of a kind repeats a name. -/
theorem FieldKind.hasDistinctNames_members : ∀ (kind : FieldKind), kind.IsOrdered →
    kind.HasDistinctNames → ∀ member ∈ kind.members, member.2.hasDistinctNames = true
  | .object ⟨fields⟩, ordered, distinct => by
    have hnames : (Members.keys (Field.namedToMembers fields)).Nodup := by
      rw [Field.keys_namedToMembers]
      exact ordered.1.imp ne_of_lt
    have hproperties : (Json.object (Field.namedToMembers fields)).hasDistinctNames = true :=
      Json.hasDistinctNames_object.2
        ⟨hnames, Field.hasDistinctNames_namedToMembers fields ordered.2 distinct⟩
    exact List.forall_mem_cons.2 ⟨rfl, List.forall_mem_singleton.2 hproperties⟩
  | .array element, ordered, distinct =>
    List.forall_mem_cons.2 ⟨rfl, List.forall_mem_singleton.2
      (Field.hasDistinctNames_toJson element ordered distinct)⟩
  | .union alternatives, ordered, distinct => by
    have helements := Json.hasDistinctNames_array.2
      (Field.hasDistinctNames_listToJson alternatives ordered distinct)
    exact List.forall_mem_cons.2 ⟨rfl, List.forall_mem_singleton.2 helements⟩
  | .boolean, _, _ | .number none, _, _ | .string none, _, _ => List.forall_mem_singleton.2 rfl
  | .number (some _), _, _ | .string (some _), _, _ =>
    List.forall_mem_cons.2 ⟨rfl, List.forall_mem_singleton.2 rfl⟩

/-- No object inside the JSON of fields repeats a name. -/
theorem Field.hasDistinctNames_listToJson : ∀ (fields : List Field), Field.ListIsOrdered fields →
    (∀ value ∈ Field.listDefaults fields, value.hasDistinctNames = true) →
      ∀ item ∈ Field.listToJson fields, item.hasDistinctNames = true
  | [], _, _ => List.forall_mem_nil _
  | field :: rest, ordered, distinct => by
    obtain ⟨hfield, hrest⟩ := List.forall_mem_append.1 distinct
    exact List.forall_mem_cons.2 ⟨Field.hasDistinctNames_toJson field ordered.1 hfield,
      Field.hasDistinctNames_listToJson rest ordered.2 hrest⟩

/-- No object inside the JSON of named fields repeats a name. -/
theorem Field.hasDistinctNames_namedToMembers : ∀ (fields : List (String × Field)),
    Field.NamedIsOrdered fields →
    (∀ value ∈ Field.namedDefaults fields, value.hasDistinctNames = true) →
      ∀ member ∈ Field.namedToMembers fields, member.2.hasDistinctNames = true
  | [], _, _ => List.forall_mem_nil _
  | (name, field) :: rest, ordered, distinct => by
    obtain ⟨hfield, hrest⟩ := List.forall_mem_append.1 distinct
    exact List.forall_mem_cons.2 ⟨Field.hasDistinctNames_toJson field ordered.1 hfield,
      Field.hasDistinctNames_namedToMembers rest ordered.2 hrest⟩

end

/-- No object inside the JSON of a schema repeats a name. -/
theorem ObjectSchema.hasDistinctNames_toJson {schema : ObjectSchema} (ordered : schema.IsOrdered)
    (distinct : schema.HasDistinctNames) : schema.toJson.hasDistinctNames = true := by
  have hmembers := (FieldKind.object schema).hasDistinctNames_members ordered distinct
  rw [FieldKind.members, List.forall_mem_cons, List.forall_mem_singleton] at hmembers
  rw [ObjectSchema.toJson, Json.hasDistinctNames_object]
  exact ⟨List.nodup_singleton _, List.forall_mem_singleton.2 hmembers.2⟩

/-! ## Defaults that are read -/

/-- The absence of repeated names passes from the fields inside and the default to the whole. -/
theorem Field.hasDistinctNames_invariant :
    IsReadInvariant (fun value => value.hasDistinctNames = true) Field.HasDistinctNames
      FieldKind.HasDistinctNames where
  item h := Json.hasDistinctNames_array.1 h
  member h := (Json.hasDistinctNames_object.1 h).2
  object hfields := ObjectSchema.hasDistinctNames_iff.2 fun entry hentry =>
    hfields entry (ObjectSchema.mem_of_mem_ofFields hentry)
  array helement := helement
  union halternatives := Field.listHasDistinctNames_iff.2 halternatives
  boolean := List.forall_mem_nil _
  number _ := List.forall_mem_nil _
  string _ := List.forall_mem_nil _
  whole hinner hdefault _ := Field.hasDistinctNames_mk.2 ⟨hdefault, hinner⟩

/-- A field that is read of a value without repeated names has none in a default. -/
theorem Field.hasDistinctNames_of_ofJson? {value : Json} {field : Field}
    (distinct : value.hasDistinctNames = true) (h : Field.ofJson? value = some field) :
    field.HasDistinctNames :=
  Field.hasDistinctNames_invariant.of_ofJson? distinct h

/-- A schema that is read of a value without repeated names has none in a default. -/
theorem ObjectSchema.hasDistinctNames_of_ofJson? {value : Json} {schema : ObjectSchema}
    (distinct : value.hasDistinctNames = true) (h : ObjectSchema.ofJson? value = some schema) :
    schema.HasDistinctNames :=
  Field.hasDistinctNames_invariant.of_schema distinct h

/-! ## Extent of the JSON of a schema -/

namespace Json

/-- Two values have the same doubles and open as many containers at once. -/
structure SameExtent (first second : Json) : Prop where
  doubles : first.doubles = second.doubles
  depth : first.depth = second.depth

/-- The values of two members have the same extent. -/
def SameMember (first second : String × Json) : Prop := SameExtent first.2 second.2

theorem SameExtent.refl (value : Json) : SameExtent value value := ⟨rfl, rfl⟩

/-- The extent of an array is that of its items. -/
theorem SameExtent.array {items others : List Json} (h : List.Forall₂ SameExtent items others) :
    SameExtent (.array items) (.array others) := by
  suffices hitems :
      itemsDoubles items = itemsDoubles others ∧ itemsDepth items = itemsDepth others by
    constructor
    · rw [Json.doubles, Json.doubles, hitems.1]
    · rw [Json.depth, Json.depth, hitems.2]
  induction h with
  | nil => exact ⟨rfl, rfl⟩
  | cons hitem _ ih =>
    rw [itemsDoubles, itemsDoubles, itemsDepth, itemsDepth, hitem.doubles, hitem.depth, ih.1, ih.2]
    exact ⟨rfl, rfl⟩

/-- The extent of an object is that of the values of its members. -/
theorem SameExtent.object {members others : Members} (h : List.Forall₂ SameMember members others) :
    SameExtent (.object members) (.object others) := by
  suffices hmembers : membersDoubles members = membersDoubles others ∧
      membersDepth members = membersDepth others by
    constructor
    · rw [Json.doubles, Json.doubles, hmembers.1]
    · rw [Json.depth, Json.depth, hmembers.2]
  induction h with
  | nil => exact ⟨rfl, rfl⟩
  | cons hmember _ ih =>
    rw [membersDoubles, membersDoubles, membersDepth, membersDepth, hmember.doubles, hmember.depth,
      ih.1, ih.2]
    exact ⟨rfl, rfl⟩

end Json

/-- A default that is null adds nothing to the definitions of a field. -/
theorem Field.sameExtent_definitions (kind other : FieldKind) (optional nullable extensible : Bool)
    (defaultValue : Option Json) :
    Json.SameExtent
      (.object (definitionMembers ⟨kind, optional, nullable, Json.present? defaultValue, extensible⟩))
      (.object (definitionMembers ⟨other, optional, nullable, defaultValue, extensible⟩)) := by
  rcases defaultValue with _ | _ | _ | _ | _ | _ | _ <;> exact ⟨rfl, rfl⟩

mutual

/-- Leaving out the null defaults of a field keeps the extent of its JSON. -/
theorem Field.sameExtent_withoutNullDefaults : ∀ field : Field,
    Json.SameExtent field.withoutNullDefaults.toJson field.toJson
  | ⟨kind, optional, nullable, defaultValue, extensible⟩ => by
    have hdefinitions := Field.sameExtent_definitions kind.withoutNullDefaults kind optional
      nullable extensible defaultValue
    rw [Field.withoutNullDefaults, Field.toJson, Field.toJson]
    exact .object (List.rel_append kind.sameMember_members
      (.cons (.refl _) (.cons (.refl _) (.cons hdefinitions .nil))))

/-- Leaving out the null defaults of a kind keeps the extent of its members. -/
theorem FieldKind.sameMember_members : ∀ kind : FieldKind,
    List.Forall₂ Json.SameMember kind.withoutNullDefaults.members kind.members
  | .object ⟨fields⟩ =>
    .cons (.refl _) (.cons (.object (Field.sameMember_namedToMembers fields)) .nil)
  | .array element => .cons (.refl _) (.cons element.sameExtent_withoutNullDefaults .nil)
  | .union alternatives =>
    .cons (.refl _) (.cons (.array (Field.sameExtent_listToJson alternatives)) .nil)
  | .boolean | .number none | .string none => .cons (.refl _) .nil
  | .number (some _) | .string (some _) => .cons (.refl _) (.cons (.refl _) .nil)

/-- Leaving out the null defaults of fields keeps the extent of their JSON. -/
theorem Field.sameExtent_listToJson : ∀ fields : List Field,
    List.Forall₂ Json.SameExtent (Field.listToJson (Field.listWithoutNullDefaults fields))
      (Field.listToJson fields)
  | [] => .nil
  | field :: rest => .cons field.sameExtent_withoutNullDefaults (Field.sameExtent_listToJson rest)

/-- Leaving out the null defaults of named fields keeps the extent of their JSON. -/
theorem Field.sameMember_namedToMembers : ∀ fields : List (String × Field),
    List.Forall₂ Json.SameMember (Field.namedToMembers (Field.namedWithoutNullDefaults fields))
      (Field.namedToMembers fields)
  | [] => .nil
  | (_, field) :: rest =>
    .cons field.sameExtent_withoutNullDefaults (Field.sameMember_namedToMembers rest)

end

/-- Leaving out the null defaults of a schema keeps the extent of its JSON. -/
theorem ObjectSchema.sameExtent_withoutNullDefaults (schema : ObjectSchema) :
    Json.SameExtent schema.withoutNullDefaults.toJson schema.toJson := by
  obtain ⟨fields⟩ := schema
  exact .object (.cons (.object (Field.sameMember_namedToMembers fields)) .nil)

end RelationalQuery
