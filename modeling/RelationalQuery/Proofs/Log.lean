import Mathlib.Order.Bounds.Defs
import RelationalQuery.Log

/-!
# Cut texts

A text that is logged may be cut, but never inside of a character.  The search for the place of the
cut goes backwards over single bytes; it stops at a boundary, and at the last one within the limit.
The boundaries of a text are the sizes of its fronts, so the slice up to this place always exists
and is the longest front of the text within the limit.

Main definitions:

- `IsLongestFront` says that a text is the longest front of another one within a number of bytes.

Main results:

- `isGreatest_lastBoundary`: the search finds the greatest boundary.
- `slice?_eq_some_iff`: what is sliced is the front of this size; without such a front there is no
  slice.
- `cutText_meaning`: a text that is short enough is logged as it is, of any other one its longest
  front and three dots.
-/

namespace RelationalQuery

variable {text front other : String} {size limit : Nat}

/-! ## Fronts -/

/-- A front of a text ends between two characters: it is a whole text, and so is the rest. -/
theorem toList_prefix_iff : front.toList <+: text.toList ↔ ∃ rest, text = front ++ rest := by
  constructor
  · rintro ⟨rest, hrest⟩
    refine ⟨String.ofList rest, ?_⟩
    rw [← String.toList_inj, String.toList_append, String.toList_ofList, hrest]
  · rintro ⟨rest, rfl⟩
    exact ⟨rest.toList, (String.toList_append ..).symm⟩

/-- Of two fronts of a text, the one with fewer bytes is a front of the other. -/
theorem prefix_of_utf8ByteSize_le (hother : other.toList <+: text.toList)
    (hfront : front.toList <+: text.toList) (hsize : other.utf8ByteSize ≤ front.utf8ByteSize) :
    other.toList <+: front.toList := by
  rcases List.prefix_or_prefix_of_prefix hother hfront with h | h
  · exact h
  · -- The other front goes on behind this one, but not by a single byte.
    obtain ⟨rest, rfl⟩ := toList_prefix_iff.1 h
    rw [String.utf8ByteSize_append] at hsize
    have hempty : rest = "" := String.utf8ByteSize_eq_zero_iff.1 (by omega)
    simp [hempty]

/-- A text is the longest front of another one within a number of bytes. -/
structure IsLongestFront (text : String) (limit : Nat) (front : String) : Prop where
  isFront : front.toList <+: text.toList
  utf8ByteSize_le : front.utf8ByteSize ≤ limit
  longest : ∀ other : String, other.toList <+: text.toList → other.utf8ByteSize ≤ limit →
    other.toList <+: front.toList

/-! ## Boundaries -/

/-- The search stops at a boundary, and skips none. -/
theorem isGreatest_lastBoundary (text : String) (byte : Nat) :
    IsGreatest {size | size ≤ byte ∧ String.Pos.Raw.IsValid text ⟨size⟩}
      (lastBoundary text byte) := by
  refine ⟨⟨?_, isValid_lastBoundary text byte⟩, ?_⟩
  · induction byte with
    | zero => exact Nat.le_refl 0
    | succ byte ih =>
      rw [lastBoundary]
      split
      · exact Nat.le_refl _
      · exact Nat.le_succ_of_le ih
  · rintro size ⟨hle, hboundary⟩
    induction byte with
    | zero => exact hle
    | succ byte ih =>
      rw [lastBoundary]
      split
      · exact hle
      · rename_i hinside
        have hne : size ≠ byte + 1 := by
          rintro rfl
          exact hinside (String.Pos.Raw.isValid_eq_true_iff.2 hboundary)
        exact ih (by omega)

/-- A front of a text ends at a boundary. -/
theorem isValid_of_front (h : front.toList <+: text.toList) :
    String.Pos.Raw.IsValid text ⟨front.utf8ByteSize⟩ := by
  obtain ⟨rest, htext⟩ := toList_prefix_iff.1 h
  exact String.Pos.Raw.isValid_iff_exists_append.2 ⟨front, rest, htext, rfl⟩

/-- What is sliced is the front of this size; without such a front there is no slice. -/
theorem slice?_eq_some_iff :
    slice? text size = some front ↔ front.toList <+: text.toList ∧ front.utf8ByteSize = size := by
  constructor
  · intro h
    unfold slice? at h
    split at h
    · rw [Option.some.injEq, String.copy_sliceTo_eq_iff_exists_splits] at h
      obtain ⟨rest, hsplits⟩ := h
      exact ⟨toList_prefix_iff.2 ⟨rest, hsplits.eq_append⟩,
        (congrArg String.Pos.Raw.byteIdx hsplits.offset_eq_rawEndPos).symm⟩
    · simp at h
  · rintro ⟨hfront, rfl⟩
    obtain ⟨rest, htext⟩ := toList_prefix_iff.1 hfront
    rw [slice?, dif_pos (isValid_of_front hfront), Option.some.injEq,
      String.copy_sliceTo_eq_iff_exists_splits]
    exact ⟨rest, htext, rfl⟩

/-- The slice at the last boundary within a limit always exists, and no front within the limit is
longer. -/
theorem exists_frontWithin? (text : String) (limit : Nat) :
    ∃ front, frontWithin? text limit = some front ∧ IsLongestFront text limit front := by
  obtain ⟨front, hslice⟩ := Option.isSome_iff_exists.1 (isSome_frontWithin? text limit)
  obtain ⟨hfront, hsize⟩ := slice?_eq_some_iff.1 hslice
  obtain ⟨⟨hwithin, -⟩, hgreatest⟩ := isGreatest_lastBoundary text (min limit text.utf8ByteSize)
  refine ⟨front, hslice, hfront, by omega, fun other hother hlimit => ?_⟩
  have hboundary := isValid_of_front hother
  have hshorter : other.utf8ByteSize ≤ front.utf8ByteSize := by
    rw [hsize]
    exact hgreatest ⟨Nat.le_min.2 ⟨hlimit, hboundary.le_utf8ByteSize⟩, hboundary⟩
  exact prefix_of_utf8ByteSize_le hother hfront hshorter

/-! ## Logged texts -/

/-- A text is logged as it is if there is no limit, or if it has at most so many bytes.  A longer one
can always be sliced at its last boundary within the limit; this slice is its longest front within
the limit, and it is logged with three dots behind it. -/
theorem cutText_meaning (text : String) (limit? : Option UInt64) :
    ((∀ limit ∈ limit?, text.utf8ByteSize ≤ limit.toNat) → cutText limit? text = text) ∧
      ∀ limit ∈ limit?, limit.toNat < text.utf8ByteSize →
        ∃ front, frontWithin? text limit.toNat = some front ∧
          IsLongestFront text limit.toNat front ∧ cutText limit? text = front ++ "..." := by
  constructor
  · intro hshort
    cases limit? with
    | none => rfl
    | some limit => exact if_pos (hshort limit rfl)
  · rintro limit ⟨⟩ hlong
    obtain ⟨front, hslice, hlongest⟩ := exists_frontWithin? text limit.toNat
    refine ⟨front, hslice, hlongest, ?_⟩
    simp only [cutText, if_neg (Nat.not_le.2 hlong), hslice, Option.get_some]

/-- The last of the first ten bytes is inside of the currency sign, so only eight of them are
logged; with a limit of twelve bytes the text is logged as it is. -/
theorem cutText_meaning_sign :
    (10 : UInt64).toNat < "SELECT '€'".utf8ByteSize ∧
      IsLongestFront "SELECT '€'" 10 "SELECT '" ∧ cutText (some 10) "SELECT '€'" = "SELECT '..." ∧
      cutText (some 12) "SELECT '€'" = "SELECT '€'" := by
  have hlong : (10 : UInt64).toNat < "SELECT '€'".utf8ByteSize := by decide
  obtain ⟨front, hslice, hlongest, hcut⟩ := (cutText_meaning "SELECT '€'" (some 10)).2 10 rfl hlong
  have hfront : frontWithin? "SELECT '€'" 10 = some "SELECT '" := by decide
  obtain rfl : "SELECT '" = front := Option.some.inj (hfront.symm.trans hslice)
  refine ⟨hlong, hlongest, hcut, (cutText_meaning "SELECT '€'" (some 12)).1 ?_⟩
  rintro limit ⟨⟩
  decide

end RelationalQuery
