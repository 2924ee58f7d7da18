import RelationalQuery.Proofs.Validation

/-!
# Parts of valid records

An insert gives a whole record and an update any part of one.  A part is left when keys are deleted
from the objects of a record, at any depth outside of arrays: the items of an array are always whole.
The validator of schemas checks every part of a valid record successfully as a part.

Main definitions:

- `Json.IsPart` and `Members.IsPart` say that a value or a record is a part of another one.

Main results:

- `Field.validate_part` and its companions: what is valid in full has valid parts, for every kind of
  field.
- `Validator.ofSchema_part`: the validator of schemas accepts every part of a record that it accepts
  in full.
-/

namespace RelationalQuery

/-! ## Parts -/

mutual

/-- Only keys of objects are missing from a value.  Items of arrays are kept as they are. -/
inductive Json.IsPart : Json → Json → Prop
  | whole (value : Json) : value.IsPart value
  | object {part record : List (String × Json)} (members : Members.IsPart part record) :
      (Json.object part).IsPart (.object record)

/-- Some members are missing from a record, and of the others there are parts. -/
inductive Members.IsPart : List (String × Json) → List (String × Json) → Prop
  | nil : Members.IsPart [] []
  | delete {part record : List (String × Json)} (name : String) (value : Json)
      (rest : Members.IsPart part record) : Members.IsPart part ((name, value) :: record)
  | keep {part record : List (String × Json)} (name : String) {inner value : Json}
      (first : inner.IsPart value) (rest : Members.IsPart part record) :
      Members.IsPart ((name, inner) :: part) ((name, value) :: record)

end

/-- A record is a part of itself. -/
theorem Members.IsPart.refl (record : Members) : Members.IsPart record record := by
  induction record with
  | nil => exact .nil
  | cons entry rest ih => exact .keep entry.1 (.whole entry.2) ih

/-- Every member of a part is a part of a member of the record. -/
theorem Members.IsPart.exists_mem {member : String × Json} : ∀ {part record : Members},
    Members.IsPart part record → member ∈ part →
      ∃ value, (member.1, value) ∈ record ∧ member.2.IsPart value
  | _, _, .nil, mem => by simp at mem
  | _, _, .delete _ _ rest, mem => by
    obtain ⟨value, hvalue, hpart⟩ := rest.exists_mem mem
    exact ⟨value, List.mem_cons_of_mem _ hvalue, hpart⟩
  | _, _, .keep _ first rest, mem => by
    rcases List.mem_cons.1 mem with rfl | hrest
    · exact ⟨_, List.mem_cons_self, first⟩
    · obtain ⟨value, hvalue, hpart⟩ := rest.exists_mem hrest
      exact ⟨value, List.mem_cons_of_mem _ hvalue, hpart⟩

/-! ## Valid parts -/

mutual

/-- The parts of a value that is valid in full are valid as parts. -/
theorem Field.validate_part : ∀ (field : Field) {value part : Json} {path : String},
    part.IsPart value → field.validate value path .full = .ok () →
      field.validate part path .partialRecord = .ok ()
  | ⟨kind, _, _, _, _⟩, value, part, _, hpart, h => by
    cases hpart with
    | whole =>
      cases value with
      | null => exact h
      | bool _ | number _ | string _ | array _ | object _ =>
        rw [Field.validate] at h ⊢
        · exact kind.validate_part (.whole _) h
        all_goals nofun
    | object members =>
      rw [Field.validate] at h ⊢
      · exact kind.validate_part (.object members) h
      all_goals nofun

theorem FieldKind.validate_part : ∀ (kind : FieldKind) {extensible : Bool} {value part : Json}
    {path : String}, part.IsPart value → kind.validate extensible value path .full = .ok () →
      kind.validate extensible part path .partialRecord = .ok ()
  | .boolean, _, _, _, _, hpart, h => by
    cases hpart with
    | whole => simpa only [FieldKind.validate] using h
    | object => simp [FieldKind.validate, Json.bool?, ensure] at h
  | .number _, _, value, _, _, hpart, h => by
    cases hpart with
    | whole =>
      cases value with
      | number _ => simpa only [FieldKind.validate] using h
      | null | bool _ | string _ | array _ | object _ => simp [FieldKind.validate, ensure] at h
    | object => simp [FieldKind.validate, ensure] at h
  | .string _, _, _, _, _, hpart, h => by
    cases hpart with
    | whole => simpa only [FieldKind.validate] using h
    | object => simp [FieldKind.validate] at h
  | .object schema, _, value, _, _, hpart, h => by
    cases hpart with
    | whole =>
      cases value with
      | object record =>
        rw [FieldKind.validate] at h ⊢
        exact schema.validate_part (.refl record) h
      | null | bool _ | number _ | string _ | array _ => simp [FieldKind.validate] at h
    | object members =>
      rw [FieldKind.validate] at h ⊢
      exact schema.validate_part members h
  | .array _, _, _, _, _, hpart, h => by
    -- The items are checked as whole records in both modes.
    cases hpart with
    | whole => simpa only [FieldKind.validate] using h
    | object => simp [FieldKind.validate] at h
  | .union alternatives, _, value, _, path, hpart, h => by
    have haccepted : Field.anyAccepts alternatives value path .full = true := by
      simpa [FieldKind.validate, ensure] using h
    rw [FieldKind.validate, Field.anyAccepts_part alternatives hpart haccepted]
    rfl

/-- The alternative that accepts a value in full accepts its parts. -/
theorem Field.anyAccepts_part : ∀ (alternatives : List Field) {value part : Json} {path : String},
    part.IsPart value → Field.anyAccepts alternatives value path .full = true →
      Field.anyAccepts alternatives part path .partialRecord = true
  | [], _, _, _, _, h => by simp [Field.anyAccepts] at h
  | first :: rest, value, _, path, hpart, h => by
    rw [Field.anyAccepts, Bool.or_eq_true] at h ⊢
    rcases h with hfirst | hrest
    · cases hvalid : first.validate value path .full with
      | error _ => simp [hvalid, Except.isOk, Except.toBool] at hfirst
      | ok _ =>
        rw [first.validate_part hpart hvalid]
        exact .inl rfl
    · exact .inr (Field.anyAccepts_part rest hpart hrest)

/-- The parts of a record that is valid in full are valid as parts: nothing is required of them. -/
theorem ObjectSchema.validate_part : ∀ (schema : ObjectSchema) {extensible : Bool}
    {record part : Members} {path : String},
    Members.IsPart part record → schema.validate extensible record path .full = .ok () →
      schema.validate extensible part path .partialRecord = .ok ()
  | ⟨fields⟩, _, _, _, _, hpart, h => by
    rw [ObjectSchema.validate, bind_eq_ok_iff] at h ⊢
    obtain ⟨_, hmembers, -⟩ := h
    refine ⟨(), forM_eq_ok_iff.2 fun member hmember => ?_, rfl⟩
    obtain ⟨value, hvalue, hinner⟩ := hpart.exists_mem hmember
    exact Field.validateNamed_part fields hinner (forM_eq_ok_iff.1 hmembers _ hvalue)

theorem Field.validateNamed_part : ∀ (fields : List (String × Field)) {extensible : Bool}
    {name : String} {value part : Json} {path : String}, part.IsPart value →
      Field.validateNamed fields extensible name value path .full = .ok () →
        Field.validateNamed fields extensible name part path .partialRecord = .ok ()
  | [], _, _, _, _, _, _, h => by
    rw [Field.validateNamed] at h ⊢
    exact h
  | (other, field) :: rest, _, name, _, _, _, hpart, h => by
    rw [Field.validateNamed] at h ⊢
    by_cases hname : name = other
    · rw [if_pos hname] at h ⊢
      exact field.validate_part hpart h
    · rw [if_neg hname] at h ⊢
      exact Field.validateNamed_part rest hpart h

end

/-- The validator of schemas accepts every part of a record that it accepts in full, in particular the
whole record. -/
theorem Validator.ofSchema_part {record : Members} {schema : ObjectSchema} {path : String}
    (valid : Validator.ofSchema record schema path .full = .ok ()) :
    (∀ part, Members.IsPart part record →
      Validator.ofSchema part schema path .partialRecord = .ok ()) ∧
    Validator.ofSchema record schema path .partialRecord = .ok () :=
  have hpart : ∀ part, Members.IsPart part record →
      Validator.ofSchema part schema path .partialRecord = .ok () :=
    fun _ inner => schema.validate_part inner valid
  ⟨hpart, hpart record (.refl record)⟩

namespace Library

/-- Loans of books: whoever has the book, with an address, or the name of a shelf, and what was noted
on it. -/
def loanSchema : ObjectSchema := ⟨[
  ("holder", .ofKind (.union [
    .ofKind (.string none),
    .ofKind (.object ⟨[
      ("address", .ofKind (.object ⟨[("city", .ofKind (.string none))]⟩)),
      ("name", .ofKind (.string none))]⟩)])),
  ("id", .ofKind (.number (some .integer))),
  ("notes", .ofKind (.array (.ofKind (.object ⟨[("text", .ofKind (.string none))]⟩))))]⟩

/-- The notes on a loan. -/
def loanNotes : Json := .array [.object [("text", .string "torn")]]

/-- A loan with all that is required. -/
def loan : Members := [
  ("id", Json.ofUInt64 7),
  ("holder", .object [
    ("name", .string "Ada"), ("address", .object [("city", .string "Turin")])]),
  ("notes", loanNotes)]

/-- The loan without its number, the name of the holder and the city. -/
def loanPart : Members := [("holder", .object [("address", .object [])]), ("notes", loanNotes)]

end Library

/-- Keys are deleted at three depths of a loan, one of them inside a union. -/
theorem Validator.ofSchema_part_library :
    Validator.ofSchema Library.loan Library.loanSchema "loan" .full = .ok () ∧
      Members.IsPart Library.loanPart Library.loan ∧
      Validator.ofSchema Library.loanPart Library.loanSchema "loan" .full ≠ .ok () ∧
      Validator.ofSchema Library.loanPart Library.loanSchema "loan" .partialRecord = .ok () := by
  have valid : Validator.ofSchema Library.loan Library.loanSchema "loan" .full = .ok () := by
    decide
  have hcity : Members.IsPart [] [("city", .string "Turin")] := .delete _ _ .nil
  have hholder : Members.IsPart [("address", .object [])]
      [("name", .string "Ada"), ("address", .object [("city", .string "Turin")])] :=
    .delete _ _ (.keep _ (.object hcity) .nil)
  have hpart : Members.IsPart Library.loanPart Library.loan :=
    .delete _ _ (.keep _ (.object hholder) (.keep _ (.whole _) .nil))
  exact ⟨valid, hpart, by decide, (Validator.ofSchema_part valid).1 _ hpart⟩

end RelationalQuery
