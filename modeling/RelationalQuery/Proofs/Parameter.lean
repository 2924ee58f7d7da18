import RelationalQuery.Parameter.Encoding
import RelationalQuery.Proofs.Computation

/-!
# Encoded values

A value is encoded by its field or by its own form.  Its parameter holds it as it is, and null is the
only value that has no parameter.

Main definitions:

- `Parameter.NullFree` says that no parameter of a list is null.

Main results:

- `Parameter.value_of_ofValue`: a parameter holds the value that it is made from.
- `Parameter.succeeds_ofValue_iff`: every value but null is encoded.
- `Parameter.ofValue_null`: the error for null.
-/

namespace RelationalQuery.Parameter

variable {value : Json} {field? : Option Field} {parameter : Parameter}

/-! ## Values of parameters -/

/-- Detection keeps the value. -/
theorem value_of_detect (h : detect value = .ok parameter) : parameter.value = value := by
  cases value with
  | null => simp [detect] at h
  | bool _ | number _ | string _ | array _ | object _ =>
    rw [detect, Except.ok.injEq] at h
    simp [← h, plain, json]

/-- A parameter holds the value that it is made from. -/
theorem value_of_ofValue (h : ofValue value field? = .ok parameter) : parameter.value = value := by
  cases field? with
  | none => exact value_of_detect h
  | some field =>
    simp only [ofValue] at h
    split at h
    · simp at h
    · unfold ofKind at h
      split at h
      case h_6 => exact value_of_detect h
      all_goals simp [← Except.ok.inj h, plain, json]

/-! ## Null -/

/-- Every value but null is detected. -/
theorem succeeds_detect_iff : Succeeds (detect value) ↔ value ≠ .null := by
  cases value <;> simp [detect]

/-- Every value but null is encoded, whether its field is known or not. -/
theorem succeeds_ofValue_iff : Succeeds (ofValue value field?) ↔ value ≠ .null := by
  cases field? with
  | none => exact succeeds_detect_iff
  | some field =>
    cases value with
    | null => exact iff_of_false not_succeeds_error fun h => h rfl
    | bool _ | number _ | string _ | array _ | object _ =>
      refine iff_of_true ?_ Json.noConfusion
      simp only [ofValue, Json.isNull, Bool.false_eq_true, if_false]
      unfold ofKind
      split
      case h_6 => exact succeeds_detect_iff.2 Json.noConfusion
      all_goals exact succeeds_ok

/-- Null is refused, whether its field is known or not. -/
theorem ofValue_null (field? : Option Field) :
    ∃ cause, ofValue .null field? = .error (.unsupportedValue cause) := by
  cases field? with
  | none => exact ⟨_, rfl⟩
  | some field => exact ⟨_, rfl⟩

/-- No parameter of a list is null. -/
def NullFree (parameters : List Parameter) : Prop :=
  ∀ parameter ∈ parameters, parameter.value ≠ .null

theorem nullFree_nil : NullFree [] := List.forall_mem_nil _

theorem nullFree_singleton : NullFree [parameter] ↔ parameter.value ≠ .null :=
  List.forall_mem_singleton

theorem nullFree_append {first second : List Parameter} :
    NullFree (first ++ second) ↔ NullFree first ∧ NullFree second :=
  List.forall_mem_append

theorem nullFree_flatMap {α : Type} {items : List α} {parameters : α → List Parameter} :
    NullFree (items.flatMap parameters) ↔ ∀ item ∈ items, NullFree (parameters item) := by
  simp only [NullFree, List.mem_flatMap]
  exact ⟨fun h item hitem parameter hmem => h parameter ⟨item, hitem, hmem⟩,
    fun h parameter ⟨item, hitem, hmem⟩ => h item hitem parameter hmem⟩

end RelationalQuery.Parameter
