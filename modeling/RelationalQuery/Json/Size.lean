import RelationalQuery.Json.Basic

/-!
# Sizes of values

The size of a value bounds recursions that walk down two values at once.

Main definitions:

- `Json.size` counts the values and members inside a value, and itself.
- `Json.sizeOrZero` is the size of a value that may be absent.
- `Json.membersOf` are the members of a value that may be absent or no object.

Main results:

- `Json.size_get?_le` and `Json.size_get?_add_le`: one member, and two distinct ones together, are
  no larger than all members.
-/

namespace RelationalQuery.Json

mutual

/-- The number of values and members inside a value, with itself. -/
def size : Json → Nat
  | .array items => 1 + itemsSize items
  | .object members => 1 + membersSize members
  | _ => 1

/-- The number of values inside the items of an array. -/
def itemsSize : List Json → Nat
  | [] => 0
  | item :: rest => size item + itemsSize rest

/-- The number of members of an object and of the values inside them. -/
def membersSize : List (String × Json) → Nat
  | [] => 0
  | (_, value) :: rest => 1 + size value + membersSize rest

end

/-- The size of a value that may be absent. -/
def sizeOrZero : Option Json → Nat
  | none => 0
  | some value => value.size

@[simp] theorem sizeOrZero_none : sizeOrZero none = 0 := rfl

@[simp] theorem sizeOrZero_some (value : Json) : sizeOrZero (some value) = value.size := rfl

/-- A member is no larger than all members. -/
theorem size_get?_le (members : Members) (key : String) :
    sizeOrZero (members.get? key) ≤ membersSize members := by
  unfold Members.get?
  induction members with
  | nil => simp [sizeOrZero]
  | cons member rest ih =>
    obtain ⟨name, value⟩ := member
    rw [List.lookup_cons]
    cases hk : key == name with
    | true => simp only [sizeOrZero, membersSize]; omega
    | false => simp only [membersSize]; omega

/-- Two distinct members are together no larger than all members. -/
theorem size_get?_add_le (members : Members) (first second : String) (distinct : first ≠ second) :
    sizeOrZero (members.get? first) + sizeOrZero (members.get? second) ≤ membersSize members := by
  induction members with
  | nil => simp [sizeOrZero, Members.get?]
  | cons member rest ih =>
    obtain ⟨name, value⟩ := member
    have hf := size_get?_le rest first
    have hs := size_get?_le rest second
    simp only [Members.get?] at ih hf hs ⊢
    rw [List.lookup_cons, List.lookup_cons]
    cases h₁ : first == name with
    | true =>
      have h₂ : (second == name) = false := by
        rw [eq_of_beq h₁] at distinct
        exact beq_false_of_ne (Ne.symm distinct)
      simp only [h₂, sizeOrZero, membersSize] at hs ⊢
      omega
    | false =>
      cases h₂ : second == name with
      | true =>
        simp only [sizeOrZero, membersSize] at hf ⊢
        omega
      | false =>
        simp only [membersSize]
        omega

/-- The members of an object; anything else has none. -/
def membersOf : Option Json → Members
  | some (.object members) => members
  | _ => []

/-- The members of an object are smaller than it. -/
theorem membersSize_membersOf_le (value? : Option Json) :
    membersSize (membersOf value?) ≤ sizeOrZero value? := by
  unfold membersOf
  split
  · simp [sizeOrZero, size]
  · simp [membersSize]

end RelationalQuery.Json
