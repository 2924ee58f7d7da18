import Mathlib.Data.List.TakeWhile
import RelationalQuery.Json.Reader

/-!
# Texts of numbers

An integer is read back from its text.  A double is read with two roundings, so its text may be read
as one of its neighbours; but whatever the text of a number is read as, it is a single word.

Main definitions:

- `Binary64.IsReadBack` says that a double is read back from its own text.
- `Json.IsWord` says that a text consists of characters of words.

Main results:

- `Json.readNumber?_integer`: every integer is read back.
- `Number.isWord_text`: the text of a number is a word.
-/

namespace RelationalQuery

/-! ## Digits -/

theorem Text.isDigit_eq (c : Char) : Text.isDigit c = c.isDigit := by
  simp only [Text.isDigit, Char.isDigit, Char.le_def]

theorem Text.digitValue?_of_isDigit {c : Char} (h : c.isDigit = true) :
    Text.digitValue? c = some (c.toNat - '0'.toNat) := by
  rw [Text.digitValue?, Text.isDigit_eq, if_pos h, Text.digitValue]

/-- Digits only make a number larger. -/
theorem le_ofDigitChars (digits : List Char) (n : Nat) : n ≤ Nat.ofDigitChars 10 digits n := by
  induction digits generalizing n with
  | nil => exact Nat.le_refl n
  | cons c rest ih =>
    have hrest := ih (10 * n + (c.toNat - '0'.toNat))
    rw [Nat.ofDigitChars_cons]
    omega

/-- The digits of a positive number do not begin with a zero. -/
theorem eq_zero_of_head?_toDigits (n : Nat) (h : (Nat.toDigits 10 n).head? = some '0') : n = 0 := by
  induction n using Nat.strongRecOn with
  | ind n ih =>
    by_cases hsmall : n < 10
    · simpa [Nat.toDigits_of_lt_base hsmall] using h
    · have hsplit := Nat.toDigits_append_toDigits (show 1 < 10 by decide)
        (show 0 < n / 10 by omega) (Nat.mod_lt n (show 0 < 10 by decide))
      rw [Nat.div_add_mod] at hsplit
      rw [← hsplit, List.head?_append, List.head?_eq_some_head Nat.toDigits_ne_nil, Option.some_or,
        ← List.head?_eq_some_head] at h
      have := ih (n / 10) (by omega) h
      omega

namespace Json

/-- Digits that fit are collected into their number. -/
theorem collectInteger_digits {digits : List Char} (h : ∀ c ∈ digits, c.isDigit = true) (n : Nat)
    (bound : Nat.ofDigitChars 10 digits n ≤ maxSignificand) :
    collectInteger digits n 0 = ((Nat.ofDigitChars 10 digits n, 0), []) := by
  induction digits generalizing n with
  | nil => rfl
  | cons c rest ih =>
    obtain ⟨hc, hrest⟩ := List.forall_mem_cons.1 h
    have hle := le_ofDigitChars rest (10 * n + (c.toNat - '0'.toNat))
    rw [Nat.ofDigitChars_cons] at bound ⊢
    rw [collectInteger, Text.digitValue?_of_isDigit hc]
    simp only
    rw [if_pos ⟨trivial, by omega⟩, Nat.mul_comm n 10]
    exact ih hrest _ bound

/-- The text of a magnitude is read as the integer with the sign that comes before it. -/
theorem readMagnitude?_natural {negative : Bool} {n : Nat} {value : Int} {number : Number}
    (bound : n ≤ maxSignificand) (signed : negative = true → n ≠ 0)
    (same : value = if negative then -(n : Int) else n) (h : Number.ofInt? value = some number) :
    readMagnitude? negative (Nat.toDigits 10 n) = some number := by
  have hdigits : ∀ c ∈ Nat.toDigits 10 n, c.isDigit = true := fun c hc =>
    Nat.isDigit_of_mem_toDigits (by decide) (by decide) hc
  have hvalue : Nat.ofDigitChars 10 (Nat.toDigits 10 n) 0 = n :=
    Nat.ofDigitChars_toDigits (by decide) (by decide)
  have hcollect := collectInteger_digits hdigits 0 (by rwa [hvalue])
  have hwhole : (Nat.toDigits 10 n).takeWhile Text.isDigit = Nat.toDigits 10 n :=
    List.takeWhile_eq_self_iff.2 hdigits
  have hlead : ¬ ((Nat.toDigits 10 n).isEmpty = true ∨
      (Nat.toDigits 10 n).length ≠ 1 ∧ (Nat.toDigits 10 n).head? = some '0') := by
    rintro (hempty | ⟨hlength, hhead⟩)
    · exact Nat.toDigits_ne_nil (List.isEmpty_iff.1 hempty)
    · obtain rfl := eq_zero_of_head?_toDigits n hhead
      exact hlength rfl
  rw [hvalue] at hcollect
  rw [readMagnitude?, hwhole, if_neg hlead, hcollect]
  have hsigned : ¬ (negative = true ∧ n = 0) := fun ⟨hnegative, hzero⟩ => signed hnegative hzero
  simp [← same, h, hsigned]

/-- A text that begins with a digit has no sign. -/
theorem readNumber?_of_isDigit {cs : List Char} (h : ∀ c ∈ cs.head?, c.isDigit = true) :
    readNumber? cs = readMagnitude? false cs := by
  unfold readNumber?
  split
  · exact absurd (h '-' rfl) (by decide)
  · rfl

/-- An integer is read back from its text. -/
theorem readNumber?_integer (value : Int)
    (inRange : -0x8000000000000000 ≤ value ∧ value < 0x10000000000000000) :
    readNumber? (Text.integer value).toList = some (.integer value inRange) := by
  have hnumber : Number.ofInt? value = some (.integer value inRange) := by
    rw [Number.ofInt?, dif_pos inRange]
  have hbound : value.natAbs ≤ maxSignificand := by
    rw [maxSignificand]
    omega
  unfold Text.integer Text.natural
  split
  · rename_i hnegative
    have htext : ("-" ++ String.ofList (Nat.toDigits 10 value.natAbs)).toList =
        '-' :: Nat.toDigits 10 value.natAbs := by simp
    rw [htext, readNumber?]
    exact readMagnitude?_natural hbound (fun _ => by omega) (by rw [if_pos rfl]; omega) hnumber
  · rename_i hnatural
    have hdigit : ∀ c ∈ (Nat.toDigits 10 value.natAbs).head?, c.isDigit = true := fun c hc =>
      Nat.isDigit_of_mem_toDigits (by decide) (by decide) (List.mem_of_head? hc)
    rw [String.toList_ofList, readNumber?_of_isDigit hdigit]
    exact readMagnitude?_natural hbound nofun (by rw [if_neg Bool.false_ne_true]; omega) hnumber

end Json

/-! ## Words -/

/-- A double is read back from its own text. -/
def Binary64.IsReadBack (x : Binary64) : Prop :=
  Json.readNumber? x.text.toList = some (.real x)

instance (x : Binary64) : Decidable x.IsReadBack :=
  inferInstanceAs (Decidable (_ = _))

/-- A text consists of characters of words, and is not empty. -/
structure Json.IsWord (cs : List Char) : Prop where
  nonempty : cs ≠ []
  chars : ∀ c ∈ cs, Json.isWordChar c = true

theorem Json.isWordChar_of_isDigit {c : Char} (h : c.isDigit = true) :
    Json.isWordChar c = true := by
  simp [Json.isWordChar, Char.isAlphanum, h]

theorem Json.isWord_toDigits (n : Nat) : Json.IsWord (Nat.toDigits 10 n) :=
  ⟨Nat.toDigits_ne_nil, fun _ hc =>
    Json.isWordChar_of_isDigit (Nat.isDigit_of_mem_toDigits (by decide) (by decide) hc)⟩

theorem Json.IsWord.cons {c : Char} {cs : List Char} (hc : Json.isWordChar c = true)
    (h : Json.IsWord cs) : Json.IsWord (c :: cs) :=
  ⟨List.cons_ne_nil _ _, List.forall_mem_cons.2 ⟨hc, h.chars⟩⟩

section

variable {digits : List Char} (h : ∀ c ∈ digits, Json.isWordChar c = true) (position : Int)

include h

theorem DecimalLayout.isWord_plain : Json.IsWord (DecimalLayout.plain digits position) := by
  have hzeros : ∀ n, ∀ c ∈ List.replicate n '0', Json.isWordChar c = true := fun n c hc => by
    rw [List.eq_of_mem_replicate hc]
    decide
  have hpoint : Json.isWordChar '.' = true := by decide
  have hzero : Json.isWordChar '0' = true := by decide
  unfold DecimalLayout.plain
  split
  · refine ⟨by simp, ?_⟩
    simp only [List.forall_mem_append, List.forall_mem_cons]
    exact ⟨⟨⟨hzero, hpoint, List.forall_mem_nil _⟩, hzeros _⟩, h⟩
  · split
    · refine ⟨by simp, ?_⟩
      simp only [List.forall_mem_append, List.forall_mem_cons]
      exact ⟨⟨h, hzeros _⟩, hpoint, hzero, List.forall_mem_nil _⟩
    · refine ⟨by simp, ?_⟩
      simp only [List.forall_mem_append, List.forall_mem_cons]
      exact ⟨⟨fun c hc => h c (List.mem_of_mem_take hc), hpoint, List.forall_mem_nil _⟩,
        fun c hc => h c (List.mem_of_mem_drop hc)⟩

theorem DecimalLayout.isWord_scientific :
    Json.IsWord (DecimalLayout.scientific digits position) := by
  have hmark : Json.isWordChar 'e' = true := by decide
  have hpoint : Json.isWordChar '.' = true := by decide
  have hsign : Json.isWordChar (if position - 1 < 0 then '-' else '+') = true := by
    split <;> decide
  refine ⟨by simp [DecimalLayout.scientific], ?_⟩
  simp only [DecimalLayout.scientific, List.forall_mem_append, List.forall_mem_cons]
  refine ⟨⟨⟨fun c hc => h c (List.mem_of_mem_take hc), ?_⟩, hmark, hsign, List.forall_mem_nil _⟩,
    (Json.isWord_toDigits _).chars⟩
  split
  · exact List.forall_mem_nil _
  · exact List.forall_mem_cons.2 ⟨hpoint, fun c hc => h c (List.mem_of_mem_drop hc)⟩

end

/-- The shortest digits of a double are digits. -/
theorem Binary64.isWordChar_shortest (x : Binary64) :
    ∀ c ∈ x.shortest.digits, Json.isWordChar c = true := by
  intro c hc
  have hmem := (List.dropWhile_sublist _).subset (List.mem_reverse.1 hc)
  exact (Json.isWord_toDigits _).chars c (List.mem_reverse.1 hmem)

theorem Binary64.isWord_text (x : Binary64) : Json.IsWord x.text.toList := by
  have hmagnitude : Json.IsWord (if x.isZero = true then ['0', '.', '0']
      else Binary64.layout.write x.shortest) := by
    split
    · exact ⟨by decide, List.all_eq_true.1 (by decide)⟩
    · unfold DecimalLayout.write
      split
      · exact DecimalLayout.isWord_plain x.isWordChar_shortest _
      · exact DecimalLayout.isWord_scientific x.isWordChar_shortest _
  rw [Binary64.text, String.toList_ofList]
  split
  · exact hmagnitude.cons (by decide)
  · exact hmagnitude

/-- The text of a number is a word. -/
theorem Number.isWord_text (n : Number) : Json.IsWord n.text.toList := by
  cases n with
  | integer value _ =>
    rw [Number.text, Text.integer]
    split
    · have htext : ("-" ++ Text.natural value.natAbs).toList =
          '-' :: Nat.toDigits 10 value.natAbs := by simp [Text.natural]
      rw [htext]
      exact (Json.isWord_toDigits _).cons (by decide)
    · rw [Text.natural, String.toList_ofList]
      exact Json.isWord_toDigits _
  | real value => exact value.isWord_text

end RelationalQuery
