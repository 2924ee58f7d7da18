import Mathlib.Data.String.Basic

/-!
# Lists in the order of names

Tables, and the fields of a schema, are kept in the order of their names, and one of the same name
is replaced.

Main definitions:

- `insertNamed` adds an item to a list in the order of names.

Main results:

- `mem_insertNamed`: the items of the list are the added one and ones that were there before.
- `pairwise_insertNamed`: the list stays in the order of names.
-/

namespace RelationalQuery

variable {α : Type} {name : α → String}

/-- Add an item to a list in the order of names; an item of the same name is replaced. -/
def insertNamed (name : α → String) : List α → α → List α
  | [], item => [item]
  | other :: rest, item =>
    if name item < name other then item :: other :: rest
    else if name item = name other then item :: rest
    else other :: insertNamed name rest item

/-- An item of a list into which one is inserted is that one or was there before. -/
theorem mem_insertNamed {items : List α} {item other : α}
    (h : other ∈ insertNamed name items item) : other = item ∨ other ∈ items := by
  induction items with
  | nil => simpa [insertNamed] using h
  | cons first rest ih =>
    unfold insertNamed at h
    split at h
    · exact List.mem_cons.1 h
    · split at h
      · exact (List.mem_cons.1 h).imp_right (List.mem_cons_of_mem _)
      · rcases List.mem_cons.1 h with rfl | hrest
        · exact .inr List.mem_cons_self
        · exact (ih hrest).imp_right (List.mem_cons_of_mem _)

/-- Inserted items stay in the order of their names. -/
theorem pairwise_insertNamed {items : List α} (item : α)
    (ordered : items.Pairwise fun first second => name first < name second) :
    (insertNamed name items item).Pairwise fun first second => name first < name second := by
  induction items with
  | nil => exact List.pairwise_singleton _ _
  | cons first rest ih =>
    obtain ⟨hfirst, hrest⟩ := List.pairwise_cons.1 ordered
    unfold insertNamed
    split
    · rename_i hbefore
      refine List.pairwise_cons.2 ⟨?_, ordered⟩
      rw [List.forall_mem_cons]
      exact ⟨hbefore, fun other hother => String.lt_trans hbefore (hfirst other hother)⟩
    · split
      · rename_i hsame
        refine List.pairwise_cons.2 ⟨?_, hrest⟩
        rw [hsame]
        exact hfirst
      · rename_i hnotBefore hother
        refine List.pairwise_cons.2 ⟨?_, ih hrest⟩
        intro other hmem
        rcases mem_insertNamed hmem with rfl | hmem
        · exact lt_of_le_of_ne (not_lt.1 hnotBefore) (Ne.symm hother)
        · exact hfirst other hmem

end RelationalQuery
