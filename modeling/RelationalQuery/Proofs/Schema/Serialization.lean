import Mathlib.Logic.Function.Iterate
import RelationalQuery.Proofs.Schema.Defaults

/-!
# Schemas survive serialization

A schema is written as JSON, and read again, either as a value or from its text.  Either way the
result is the schema without its null defaults, and what has been read once stays as it is.  A text
has limits that a value has not: a double in a default must be what its own text is read as, and not
too many containers may be open at once.

Main definitions:

- `Json.IsReadable` says that a value is within these limits.
- `SurvivesSerialization` says what is read in each round of writing and reading.

Main results:

- `schemas_survive_serialization`: this for schemas and fields, and for those that have been read.
- `Field.ofText?_ofDouble` and `Field.ofText?_nested`: beyond these limits the text of a field is
  read as another field, or not at all.
-/

namespace RelationalQuery

/-! ## Readable texts -/

/-- A value can be read back from its text: its doubles are what their own texts are read as, and no
more containers are open at once than may be. -/
structure Json.IsReadable (value : Json) : Prop where
  doubles : ∀ x ∈ value.doubles, x.IsReadBack
  depth : value.depth ≤ Machine.maxOpen

/-- A readable value is read back from its text. -/
theorem Json.IsReadable.ofText?_text {value : Json} (readable : value.IsReadable)
    (distinct : value.hasDistinctNames = true) : ofText? value.text = some value := by
  rw [Json.ofText?_text (reread?_eq_self readable.doubles) distinct, if_pos readable.depth]

theorem Json.SameExtent.isReadable {first second : Json} (h : SameExtent first second)
    (readable : second.IsReadable) : first.IsReadable :=
  ⟨h.doubles ▸ readable.doubles, h.depth ▸ readable.depth⟩

/-! ## Rounds of writing and reading -/

section

variable {α : Type} (toJson : α → Json) (ofJson? : Json → Option α)

/-- What is read of the text of what there is. -/
def serializationRound (current : Option α) : Option α :=
  current.bind fun item => (Json.ofText? (toJson item).text).bind ofJson?

/-- What is written is read in a settled form, and from then on stays as it is. -/
structure SurvivesSerialization (written settled : α) : Prop where
  value : ofJson? (toJson written) = some settled
  settledValue : ofJson? (toJson settled) = some settled
  text : (toJson written).IsReadable → ∀ rounds,
    (serializationRound toJson ofJson?)^[rounds + 1] (some written) = some settled

variable {toJson ofJson?}

/-- Two values of the same extent that are read as one are read as it in every round. -/
theorem SurvivesSerialization.of_values {written settled : α}
    (value : ofJson? (toJson written) = some settled)
    (settledValue : ofJson? (toJson settled) = some settled)
    (distinct : (toJson written).hasDistinctNames = true)
    (settledDistinct : (toJson settled).hasDistinctNames = true)
    (extent : (toJson settled).SameExtent (toJson written)) :
    SurvivesSerialization toJson ofJson? written settled where
  value := value
  settledValue := settledValue
  text readable rounds := by
    have hfirst : serializationRound toJson ofJson? (some written) = some settled := by
      rw [serializationRound, Option.bind_some, readable.ofText?_text distinct, Option.bind_some,
        value]
    have hlater : serializationRound toJson ofJson? (some settled) = some settled := by
      rw [serializationRound, Option.bind_some,
        (extent.isReadable readable).ofText?_text settledDistinct, Option.bind_some, settledValue]
    rw [Function.iterate_succ_apply, hfirst]
    exact Function.iterate_fixed hlater rounds

end

theorem Field.survives {field : Field} (ordered : field.IsOrdered)
    (distinct : field.HasDistinctNames) :
    SurvivesSerialization Field.toJson Field.ofJson? field field.withoutNullDefaults := by
  have hvalue := Field.ofJson?_toJson field ordered
  have hnames := Field.hasDistinctNames_toJson field ordered distinct
  have hread := Field.isRead_of_ofJson? hvalue
  have hsettled := Field.ofJson?_toJson _ hread.ordered
  rw [hread.settled] at hsettled
  exact .of_values hvalue hsettled hnames
    (Field.hasDistinctNames_toJson _ hread.ordered (Field.hasDistinctNames_of_ofJson? hnames hvalue))
    field.sameExtent_withoutNullDefaults

theorem ObjectSchema.survives {schema : ObjectSchema} (ordered : schema.IsOrdered)
    (distinct : schema.HasDistinctNames) :
    SurvivesSerialization ObjectSchema.toJson ObjectSchema.ofJson? schema
      schema.withoutNullDefaults := by
  have hvalue := schema.ofJson?_toJson ordered
  have hnames := ObjectSchema.hasDistinctNames_toJson ordered distinct
  have hread := ObjectSchema.isRead_of_ofJson? hvalue
  have hsettled := ObjectSchema.ofJson?_toJson _ hread.ordered
  rw [hread.settled] at hsettled
  exact .of_values hvalue hsettled hnames
    (ObjectSchema.hasDistinctNames_toJson hread.ordered
      (ObjectSchema.hasDistinctNames_of_ofJson? hnames hvalue))
    schema.sameExtent_withoutNullDefaults

/-- Schemas and fields survive serialization, up to defaults that are null; those that have been
read survive it as they are. -/
theorem schemas_survive_serialization :
    (∀ schema : ObjectSchema, schema.IsOrdered → schema.HasDistinctNames →
      SurvivesSerialization ObjectSchema.toJson ObjectSchema.ofJson? schema
        schema.withoutNullDefaults) ∧
    (∀ field : Field, field.IsOrdered → field.HasDistinctNames →
      SurvivesSerialization Field.toJson Field.ofJson? field field.withoutNullDefaults) ∧
    (∀ (value : Json) (schema : ObjectSchema), value.hasDistinctNames = true →
      ObjectSchema.ofJson? value = some schema →
        SurvivesSerialization ObjectSchema.toJson ObjectSchema.ofJson? schema schema) ∧
    ∀ (value : Json) (field : Field), value.hasDistinctNames = true →
      Field.ofJson? value = some field →
        SurvivesSerialization Field.toJson Field.ofJson? field field := by
  refine ⟨fun _ => ObjectSchema.survives, fun _ => Field.survives, fun value schema distinct h => ?_,
    fun value field distinct h => ?_⟩
  · have hread := ObjectSchema.isRead_of_ofJson? h
    have hsurvives := ObjectSchema.survives hread.ordered
      (ObjectSchema.hasDistinctNames_of_ofJson? distinct h)
    rwa [hread.settled] at hsurvives
  · have hread := Field.isRead_of_ofJson? h
    have hsurvives := Field.survives hread.ordered (Field.hasDistinctNames_of_ofJson? distinct h)
    rwa [hread.settled] at hsurvives

/-- The limits are met by a schema whose defaults are an object, a double and null; it is read
without the null in every round. -/
theorem schemas_survive_serialization_sample :
    let sample : ObjectSchema :=
      ⟨[("meta", ⟨.object .empty, false, true,
          some (.object [("tags", .array [.string "a", .null])]), true⟩),
        ("rate", ⟨.number none, true, false, some (.number (.real Binary64.zero)), false⟩),
        ("size", ⟨.union [⟨.boolean, false, false, some .null, false⟩], false, true, some .null,
          false⟩)]⟩
    sample.IsOrdered ∧ sample.HasDistinctNames ∧ sample.toJson.IsReadable ∧
      sample.withoutNullDefaults.toJson ≠ sample.toJson ∧
      ∀ rounds, (serializationRound ObjectSchema.toJson ObjectSchema.ofJson?)^[rounds + 1]
        (some sample) = some sample.withoutNullDefaults := by
  intro sample
  have hordered : sample.IsOrdered :=
    ⟨by decide, ⟨List.Pairwise.nil, trivial⟩, trivial, ⟨trivial, trivial⟩, trivial⟩
  have hdistinct : sample.HasDistinctNames := by
    unfold ObjectSchema.HasDistinctNames
    decide
  have hreadable : sample.toJson.IsReadable := ⟨by decide +kernel, by decide +kernel⟩
  refine ⟨hordered, hdistinct, hreadable, by decide +kernel, ?_⟩
  exact (schemas_survive_serialization.1 sample hordered hdistinct).text hreadable

/-! ## Beyond the limits -/

/-- A number with a double as its default. -/
def Field.ofDouble (x : Binary64) : Field :=
  ⟨.number none, false, false, some (.number (.real x)), false⟩

/-- The default in the text of a field is what the text of the double is read as. -/
theorem Field.ofText?_ofDouble {x y : Binary64}
    (h : Json.readNumber? x.text.toList = some (.real y)) :
    (Json.ofText? (Field.ofDouble x).toJson.text).bind Field.ofJson? = some (Field.ofDouble y) := by
  have hreread : (Field.ofDouble x).toJson.reread? = some (Field.ofDouble y).toJson := by
    simp [Field.ofDouble, Field.toJson, FieldKind.members, Field.definitionMembers, Json.reread?,
      Json.membersReread?, Number.text, h]
  have hdepth : (Field.ofDouble y).toJson.depth = 2 := rfl
  rw [Json.ofText?_text hreread rfl, hdepth, if_pos (by decide), Option.bind_some]
  exact Field.ofJson?_toJson (Field.ofDouble y) trivial

/-- A boolean inside so many arrays. -/
def Field.nested : Nat → Field
  | 0 => ⟨.boolean, false, false, none, false⟩
  | levels + 1 => ⟨.array (Field.nested levels), false, false, none, false⟩

theorem Field.nested_isOrdered (levels : Nat) : (Field.nested levels).IsOrdered := by
  induction levels with
  | zero => trivial
  | succ levels ih => exact ih

theorem Field.withoutNullDefaults_nested (levels : Nat) :
    (Field.nested levels).withoutNullDefaults = Field.nested levels := by
  induction levels with
  | zero => rfl
  | succ levels ih =>
    rw [Field.nested, Field.withoutNullDefaults, FieldKind.withoutNullDefaults, ih]
    rfl

theorem Field.defaults_nested (levels : Nat) : (Field.nested levels).defaults = [] := by
  induction levels with
  | zero => rfl
  | succ levels ih => exact ih

theorem Field.doubles_nested (levels : Nat) : (Field.nested levels).toJson.doubles = [] := by
  induction levels with
  | zero => rfl
  | succ levels ih =>
    simp [Field.nested, Field.toJson, FieldKind.members, Field.definitionMembers, Json.doubles,
      Json.membersDoubles, ih]

/-- Every array opens one more container. -/
theorem Field.depth_nested (levels : Nat) : (Field.nested levels).toJson.depth = levels + 2 := by
  induction levels with
  | zero => rfl
  | succ levels ih =>
    simp [Field.nested, Field.toJson, FieldKind.members, Field.definitionMembers, Json.depth,
      Json.membersDepth, ih]
    omega

/-- The text of a boolean inside many arrays is not read. -/
theorem Field.ofText?_nested {levels : Nat} (deep : Json.Machine.maxOpen < levels + 2) :
    Json.ofText? (Field.nested levels).toJson.text = none := by
  have hdoubles : ∀ x ∈ (Field.nested levels).toJson.doubles, x.IsReadBack := by
    rw [Field.doubles_nested]
    exact List.forall_mem_nil _
  have hdistinct : (Field.nested levels).HasDistinctNames := by
    rw [Field.HasDistinctNames, Field.defaults_nested]
    exact List.forall_mem_nil _
  rw [Json.ofText?_text (Json.reread?_eq_self hdoubles)
    (Field.hasDistinctNames_toJson _ (Field.nested_isOrdered levels) hdistinct),
    Field.depth_nested, if_neg (by omega)]

/-- The double that the text of ten to the power of minus twenty-four is read as. -/
def Binary64.tinyPower : Binary64 :=
  ⟨false, 5444517870735016, 942, by decide, by decide, by decide⟩

/-- A field whose default is a power of ten is read as a field, and its text as another one; the
text of a deep field is not read at all. -/
theorem exists_field_not_surviving :
    (Field.ofJson? (Field.ofDouble Binary64.tinyPower).toJson =
        some (Field.ofDouble Binary64.tinyPower) ∧
      (Json.ofText? (Field.ofDouble Binary64.tinyPower).toJson.text).bind Field.ofJson? ≠
        some (Field.ofDouble Binary64.tinyPower)) ∧
    Field.ofJson? (Field.nested 126).toJson = some (Field.nested 126) ∧
      (Json.ofText? (Field.nested 126).toJson.text).bind Field.ofJson? = none := by
  have hneighbour : Json.readNumber? Binary64.tinyPower.text.toList =
      some (.real ⟨false, 5444517870735015, 942, by decide, by decide, by decide⟩) := by
    decide +kernel
  refine ⟨⟨Field.ofJson?_toJson _ trivial, ?_⟩, ?_, ?_⟩
  · rw [Field.ofText?_ofDouble hneighbour]
    simp [Field.ofDouble, Binary64.tinyPower]
  · rw [Field.ofJson?_toJson _ (Field.nested_isOrdered 126), Field.withoutNullDefaults_nested]
  · rw [Field.ofText?_nested (by decide), Option.bind_none]

end RelationalQuery
