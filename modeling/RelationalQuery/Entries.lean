/-!
# Values by name

Members of objects, entries of records and similar lists hold values by name in the order in which
the names were first given.

Main definitions:

- `Entries.put` replaces the value of a name in place, or appends a new name.

Main results:

- `Entries.lookup_put` says what every name stands for afterwards.
- `Entries.lookup_isSome_iff` and `Entries.lookup_eq_none_iff` say which names stand for something.
- `Entries.nodup_names_put` says that no name is repeated.
- `Entries.mem_put` says where entries come from.
-/

namespace RelationalQuery.Entries

/-- Replace the value of a name in place, or append the name with its value. -/
def put : List (String × α) → String → α → List (String × α)
  | [], name, value => [(name, value)]
  | (other, old) :: rest, name, value =>
    if other = name then (other, value) :: rest else (other, old) :: put rest name value

/-- The names of entries. -/
def names (entries : List (String × α)) : List String := entries.map (·.1)

/-- The put value is found under its name, and every other name stands for what it did. -/
theorem lookup_put (entries : List (String × α)) (name other : String) (value : α) :
    (put entries name value).lookup other =
      if other = name then some value else entries.lookup other := by
  induction entries with
  | nil =>
    have hb : (other == name) = decide (other = name) := rfl
    by_cases h : other = name <;> simp [put, List.lookup_cons, hb, h]
  | cons entry rest ih =>
    obtain ⟨first, old⟩ := entry
    by_cases hf : first = name <;> by_cases ho : other = first <;>
      simp_all [put, List.lookup_cons] <;> grind

/-- A name stands for a value exactly if it is among the names. -/
theorem lookup_isSome_iff {entries : List (String × α)} {name : String} :
    (entries.lookup name).isSome = true ↔ name ∈ names entries := by
  rw [List.lookup_isSome_iff, names, List.mem_map]
  exact exists_congr fun _ => and_congr_right fun _ => beq_iff_eq.trans eq_comm

theorem lookup_eq_none_iff {entries : List (String × α)} {name : String} :
    entries.lookup name = none ↔ name ∉ names entries := by
  rw [← lookup_isSome_iff, Bool.not_eq_true, Option.isSome_eq_false_iff, Option.isNone_iff_eq_none]

/-- What is found under a name is the value of an entry. -/
theorem mem_of_lookup {entries : List (String × α)} {name : String} {value : α}
    (h : entries.lookup name = some value) : (name, value) ∈ entries := by
  obtain ⟨_, _, rfl, -⟩ := List.lookup_eq_some_iff.1 h
  exact List.mem_append_right _ List.mem_cons_self

/-- A put name is among the names, which are otherwise unchanged. -/
theorem mem_names_put (entries : List (String × α)) (name other : String) (value : α) :
    other ∈ names (put entries name value) ↔ other = name ∨ other ∈ names entries := by
  induction entries with
  | nil => simp [put, names]
  | cons entry rest ih =>
    obtain ⟨first, old⟩ := entry
    unfold names at ih ⊢
    by_cases hf : first = name
    · simp only [put, hf, if_true, List.map_cons, List.mem_cons]
      grind
    · simp only [put, hf, if_false, List.map_cons, List.mem_cons, ih]
      grind

/-- An entry is the put one or was there before. -/
theorem mem_put {entries : List (String × α)} {name : String} {value : α} {entry : String × α}
    (h : entry ∈ put entries name value) : entry = (name, value) ∨ entry ∈ entries := by
  induction entries with
  | nil =>
    left
    simpa [put] using h
  | cons first rest ih =>
    unfold put at h
    split at h
    · rename_i hname
      rcases List.mem_cons.1 h with rfl | hrest
      · left
        rw [hname]
      · right
        exact List.mem_cons_of_mem _ hrest
    · rcases List.mem_cons.1 h with rfl | hrest
      · right
        exact List.mem_cons_self
      · rcases ih hrest with hput | hold
        · left
          exact hput
        · right
          exact List.mem_cons_of_mem _ hold

/-- Names stay distinct. -/
theorem nodup_names_put (entries : List (String × α)) (name : String) (value : α)
    (distinct : (names entries).Nodup) : (names (put entries name value)).Nodup := by
  induction entries with
  | nil => simp [put, names]
  | cons entry rest ih =>
    obtain ⟨first, old⟩ := entry
    have hm := mem_names_put rest name first value
    unfold names at ih hm distinct ⊢
    obtain ⟨hfirst, hrest⟩ := List.nodup_cons.1 distinct
    by_cases hf : first = name
    · simp only [put, hf, if_true]
      exact List.nodup_cons.2 ⟨hf ▸ hfirst, hrest⟩
    · simp only [put, hf, if_false]
      refine List.nodup_cons.2 ⟨?_, ih hrest⟩
      intro hput
      exact (hm.1 hput).elim hf hfirst

end RelationalQuery.Entries
