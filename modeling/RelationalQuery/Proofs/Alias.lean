import RelationalQuery.Proofs.Computation

/-!
# Distinct names of subqueries

Names of one stem are told apart by their numbers, and a name that is handed out differs from every
name of its stem that is handed out later.

Main definitions:

- `InFamily` says that a name has a stem and a number.
- `FreshFrom` says that a name is not handed out from a number on.

Main results:

- `numberedName_inj`: a number is read off its name.
- `freshFrom_numberedName`: a name is not handed out again.
-/

namespace RelationalQuery

theorem Text.natural_inj {n m : Nat} : Text.natural n = Text.natural m ↔ n = m := by
  constructor
  · intro h
    have hdigits : Nat.toDigits 10 n = Nat.toDigits 10 m := by
      simpa [Text.natural] using congrArg String.toList h
    -- Reading the digits back gives the number.
    have hread := congrArg (Nat.ofDigitChars 10 · 0) hdigits
    simpa using hread
  · intro h
    rw [h]

/-- Names of one stem differ by their numbers. -/
theorem numberedName_inj {stem : String} {n m : Nat} :
    numberedName stem n = numberedName stem m ↔ n = m := by
  rw [numberedName, numberedName, ← Text.natural_inj]
  constructor
  · intro h
    have hcharacters := congrArg String.toList h
    rw [String.toList_append, String.toList_append] at hcharacters
    exact String.toList_inj.1 (List.append_cancel_left hcharacters)
  · intro h
    rw [h]

/-- A name has a stem and a number. -/
def InFamily (stem name : String) : Prop := ∃ index, name = numberedName stem index

/-- Two stems give no name in common. -/
def DisjointFamilies (stem other : String) : Prop :=
  ∀ name, InFamily stem name → ¬ InFamily other name

/-- A name is not handed out from a number on. -/
def FreshFrom (stem : String) (index : Nat) (name : String) : Prop :=
  ∀ later, index ≤ later → name ≠ numberedName stem later

theorem inFamily_numberedName (stem : String) (index : Nat) :
    InFamily stem (numberedName stem index) :=
  ⟨index, rfl⟩

/-- A name of a family starts with its stem. -/
theorem InFamily.startsWith_stem {stem name : String} (h : InFamily stem name) :
    stem.toList <+: name.toList := by
  obtain ⟨index, rfl⟩ := h
  exact ⟨(Text.natural index).toList, (String.toList_append ..).symm⟩

/-- Stems of which none starts the other give no name in common. -/
theorem disjointFamilies_of_stems {stem other : String} (hstem : ¬ stem.toList <+: other.toList)
    (hother : ¬ other.toList <+: stem.toList) : DisjointFamilies stem other := by
  intro name hname hsame
  rcases List.prefix_or_prefix_of_prefix hname.startsWith_stem hsame.startsWith_stem with h | h
  · exact hstem h
  · exact hother h

/-- A name outside the family is never made. -/
theorem FreshFrom.of_not_inFamily {stem name : String} (h : ¬ InFamily stem name) (index : Nat) :
    FreshFrom stem index name := by
  intro later _ hname
  exact h ⟨later, hname⟩

/-- A name that is fresh from a number on is fresh from a later one on. -/
theorem FreshFrom.mono {stem name : String} {n m : Nat} (h : FreshFrom stem n name) (hle : n ≤ m) :
    FreshFrom stem m name := by
  intro later hlater
  exact h later (Nat.le_trans hle hlater)

/-- A name that was handed out is not handed out again. -/
theorem freshFrom_numberedName (stem : String) (index : Nat) :
    FreshFrom stem (index + 1) (numberedName stem index) := by
  intro later hlater hname
  have := numberedName_inj.1 hname
  omega

end RelationalQuery
