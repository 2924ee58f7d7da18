import RelationalQuery.Json.Size

/-!
# Keys inside values

Main definitions:

- `Json.allKeys` are the keys of all objects inside a value, at any depth.
- `Json.treeKeys` are those of a value that may be absent.

Main results:

- `Json.allKeys_subset_of_mem`: a member has no keys inside that its object does not have.
- `Json.treeKeys_get?_subset`, `Json.treeKeys_orElse_subset` and `Json.memberKeys_membersOf_subset`:
  neither has what is taken from a value.
-/

namespace RelationalQuery.Json

mutual

/-- The keys of all objects inside a value, at any depth. -/
def allKeys : Json → List String
  | .array items => itemKeys items
  | .object members => memberKeys members
  | _ => []

/-- The keys inside the items of an array. -/
def itemKeys : List Json → List String
  | [] => []
  | item :: rest => item.allKeys ++ itemKeys rest

/-- The keys of members and those inside their values. -/
def memberKeys : List (String × Json) → List String
  | [] => []
  | (key, value) :: rest => key :: value.allKeys ++ memberKeys rest

end

/-- The keys inside a value that may be absent. -/
def treeKeys (value? : Option Json) : List String := value?.toList.flatMap allKeys

@[simp]
theorem treeKeys_none : treeKeys none = [] := rfl

@[simp]
theorem treeKeys_some (value : Json) : treeKeys (some value) = value.allKeys :=
  List.flatMap_singleton ..

section

variable {members others : Members} {key : String} {value : Json}

theorem mem_memberKeys_of_mem (h : (key, value) ∈ members) : key ∈ memberKeys members := by
  induction members with
  | nil => cases h
  | cons member rest ih =>
    rw [memberKeys, List.mem_append, List.mem_cons]
    rcases List.mem_cons.1 h with rfl | hrest
    · exact .inl (.inl rfl)
    · exact .inr (ih hrest)

/-- A member has no keys inside that its object does not have. -/
theorem allKeys_subset_of_mem (h : (key, value) ∈ members) :
    value.allKeys ⊆ memberKeys members := by
  induction members with
  | nil => cases h
  | cons member rest ih =>
    intro inner hinner
    rw [memberKeys, List.mem_append, List.mem_cons]
    rcases List.mem_cons.1 h with rfl | hrest
    · exact .inl (.inr hinner)
    · exact .inr (ih hrest hinner)

/-- Fewer members have no further keys. -/
theorem memberKeys_subset (h : members ⊆ others) : memberKeys members ⊆ memberKeys others := by
  induction members with
  | nil => exact List.nil_subset _
  | cons member rest ih =>
    obtain ⟨name, inner⟩ := member
    rw [List.cons_subset] at h
    rw [memberKeys, List.append_subset, List.cons_subset]
    exact ⟨⟨mem_memberKeys_of_mem h.1, allKeys_subset_of_mem h.1⟩, ih h.2⟩

end

/-- A member has no keys that its object has not. -/
theorem treeKeys_get?_subset (members : Members) (key : String) :
    treeKeys (members.get? key) ⊆ memberKeys members := by
  cases hvalue : members.get? key with
  | none => exact List.nil_subset _
  | some value =>
    rw [treeKeys_some]
    exact allKeys_subset_of_mem (Entries.mem_of_lookup hvalue)

theorem treeKeys_orElse_subset (first? second? : Option Json) :
    treeKeys (first? <|> second?) ⊆ treeKeys first? ++ treeKeys second? := by
  cases first? with
  | none => simp
  | some first => simp

/-- The members of a value have no keys that the value has not. -/
theorem memberKeys_membersOf_subset (value? : Option Json) :
    memberKeys (membersOf value?) ⊆ treeKeys value? := by
  unfold membersOf
  split
  · rw [treeKeys_some, allKeys]
    exact List.Subset.refl _
  · exact List.nil_subset _

end RelationalQuery.Json
