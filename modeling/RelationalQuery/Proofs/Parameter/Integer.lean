import Mathlib.Algebra.Group.Nat.Defs
import Mathlib.Algebra.Ring.Int.Defs
import RelationalQuery.Parameter.Binary
import RelationalQuery.Parameter.Encoding
import RelationalQuery.Proofs.Computation
import RelationalQuery.Validation

/-!
# Bound integers

An integer is sent in two's complement, the most significant byte first.  A number of an integer
field that is written as an integer is bound to every integer type that can hold it, and never as
another integer.

Main definitions:

- `signedValue` is the integer that bytes stand for; `FitsBytes` says which integers so many bytes
  can hold, and `WritesInteger` that bytes are an integer of a given width.
- `ColumnType.integerBytes?` is the width of an integer type.
- `Number.toInt?` is the integer that a number without a fractional part is.

Main results:

- `signedOr_eq_ok` and `exists_signedOr`: an integer that fits is written, and only then.
- `Number.binds_integer`: the integers of integer fields are bound as they are.
-/

namespace RelationalQuery

/-! ## Integers in bytes -/

/-- The natural number that bytes stand for, the most significant one first. -/
def unsignedValue (bytes : List UInt8) : Nat :=
  bytes.foldl (fun value byte => 256 * value + byte.toNat) 0

/-- The integer that bytes stand for in two's complement, the most significant one first. -/
def signedValue (bytes : List UInt8) : Int :=
  Int.bmod (unsignedValue bytes) (256 ^ bytes.length)

/-- So many bytes can hold an integer in two's complement. -/
def FitsBytes (count : Nat) (value : Int) : Prop :=
  -2 ^ (8 * count - 1) ≤ value ∧ value < 2 ^ (8 * count - 1)

instance (count : Nat) (value : Int) : Decidable (FitsBytes count value) :=
  inferInstanceAs (Decidable (_ ∧ _))

/-- Bytes are an integer in two's complement of a given width. -/
structure WritesInteger (count : Nat) (value : Int) (bytes : List UInt8) : Prop where
  length : bytes.length = count
  value : signedValue bytes = value

theorem length_bigEndian (count value : Nat) : (bigEndian count value).length = count := by
  induction count generalizing value with
  | zero => rfl
  | succ count ih => rw [bigEndian, List.length_append, ih, List.length_singleton]

/-- Of a number that is too large, the lowest bytes are written. -/
theorem unsignedValue_bigEndian (count value : Nat) :
    unsignedValue (bigEndian count value) = value % 256 ^ count := by
  induction count generalizing value with
  | zero => simp [bigEndian, unsignedValue, Nat.mod_one]
  | succ count ih =>
    have hlast : (UInt8.ofNat (value % 256)).toNat = value % 256 := by simp
    have hfront := ih (value / 256)
    unfold unsignedValue at hfront ⊢
    rw [bigEndian, List.foldl_concat, hfront, hlast, Nat.pow_succ', Nat.mod_mul, Nat.add_comm]

/-- An integer that fits is read back. -/
theorem signedValue_signedBigEndian {count : Nat} {value : Int} (positive : 0 < count)
    (fits : FitsBytes count value) : signedValue (signedBigEndian count value) = value := by
  have hwidth : (256 : Nat) ^ count = 2 * 2 ^ (8 * count - 1) := by
    rw [← Nat.pow_succ', show (256 : Nat) = 2 ^ 8 from rfl, ← Nat.pow_mul]
    congr 1
    omega
  have hpositive : (0 : Int) < (256 ^ count : Nat) := by
    exact_mod_cast Nat.pow_pos (by decide)
  have hmodulus : ((value % (256 ^ count : Nat)).toNat : Int) = value % (256 ^ count : Nat) :=
    Int.toNat_of_nonneg (Int.emod_nonneg _ (Int.ne_of_gt hpositive))
  have hlow : (value % (256 ^ count : Nat)).toNat < 256 ^ count := by
    have := Int.emod_lt_of_pos value hpositive
    omega
  unfold signedValue signedBigEndian
  rw [length_bigEndian, unsignedValue_bigEndian, Nat.pow_eq, Nat.mod_eq_of_lt hlow, hmodulus,
    Int.emod_bmod]
  obtain ⟨hleast, hmost⟩ := fits
  have hcast : ((2 ^ (8 * count - 1) : Nat) : Int) = 2 ^ (8 * count - 1) := by push_cast; rfl
  apply Int.bmod_eq_of_le <;> rw [hwidth] <;> omega

section

variable {failure : BindError} {count : Nat} {value : Int} {bytes : List UInt8}

theorem signedOr_of_fits (fits : FitsBytes count value) :
    signedOr failure count value = .ok (signedBigEndian count value) := by
  have hcast : ((Nat.pow 2 (8 * count - 1) : Nat) : Int) = 2 ^ (8 * count - 1) := by simp
  simp only [signedOr, hcast]
  exact if_pos fits

/-- An integer that does not fit is refused. -/
theorem signedOr_of_not_fits (h : ¬ FitsBytes count value) :
    signedOr failure count value = .error failure := by
  have hcast : ((Nat.pow 2 (8 * count - 1) : Nat) : Int) = 2 ^ (8 * count - 1) := by simp
  simp only [signedOr, hcast]
  exact if_neg h

/-- An integer that fits is written. -/
theorem exists_signedOr (failure : BindError) (positive : 0 < count)
    (fits : FitsBytes count value) :
    ∃ bytes, signedOr failure count value = .ok bytes ∧ WritesInteger count value bytes :=
  ⟨_, signedOr_of_fits fits, length_bigEndian _ _, signedValue_signedBigEndian positive fits⟩

/-- What is written is the integer. -/
theorem writesInteger_of_signedOr (positive : 0 < count)
    (h : signedOr failure count value = .ok bytes) : WritesInteger count value bytes := by
  by_cases fits : FitsBytes count value
  · obtain ⟨written, hwritten, hwrites⟩ := exists_signedOr failure positive fits
    rw [hwritten, Except.ok.injEq] at h
    exact h ▸ hwrites
  · simp [signedOr_of_not_fits fits] at h

end

/-! ## Integers of fields -/

/-- The width of an integer type. -/
def ColumnType.integerBytes? : ColumnType → Option Nat
  | .int2 => some 2
  | .int4 => some 4
  | .int8 => some 8
  | _ => none

/-- The integer that a number without a fractional part is. -/
def Number.toInt? : Number → Option Int
  | .integer value _ => some value
  | .real x =>
    if x.isIntegral then
      let magnitude : Int := x.units / Binary64.unitsPerOne
      some (if x.negative then -magnitude else magnitude)
    else none

namespace Number

variable {number : Number} {type : ColumnType} {count : Nat} {value : Int} {bytes : List UInt8}

theorem isSome_toInt? (number : Number) : number.toInt?.isSome = number.isIntegral := by
  cases number with
  | integer => rfl
  | real x => cases h : x.isIntegral <;> simp [toInt?, isIntegral, h]

/-- Integer types have a width of at most eight bytes, at which the integer of a number is written. -/
theorem binary_of_integerBytes? (number : Number) (width : type.integerBytes? = some count) :
    0 < count ∧ count ≤ 8 ∧ number.binary type = number.binaryInteger count := by
  cases type <;> simp [ColumnType.integerBytes?] at width <;> subst width <;>
    exact ⟨by decide, by decide, rfl⟩

theorem toInt?_of_int? (written : number.int? = some value) : number.toInt? = some value := by
  cases number with
  | integer => exact written
  | real => simp [int?] at written

/-- An integer that fits is a signed 64-bit integer. -/
theorem signed?_of_fits (written : number.int? = some value) (narrow : count ≤ 8)
    (fits : FitsBytes count value) : number.signed? = some value := by
  have hwidth : (2 : Int) ^ (8 * count - 1) ≤ 2 ^ 63 := by
    exact_mod_cast Nat.pow_le_pow_right (by decide) (by omega)
  have hsmall : value < 0x8000000000000000 := Int.lt_of_lt_of_le fits.2 hwidth
  simp [signed?, written, hsmall]

/-- A number that is written as an integer that fits is bound as this integer. -/
theorem exists_binaryInteger (written : number.int? = some value) (positive : 0 < count)
    (narrow : count ≤ 8) (fits : FitsBytes count value) :
    ∃ bytes, number.binaryInteger count = .ok bytes ∧ WritesInteger count value bytes := by
  rw [binaryInteger, signed?_of_fits written narrow fits]
  exact exists_signedOr _ positive fits

/-- A number that is written as an integer that does not fit is refused. -/
theorem binaryInteger_of_not_fits (written : number.int? = some value)
    (h : ¬ FitsBytes count value) : ∃ failure, number.binaryInteger count = .error failure := by
  rw [binaryInteger]
  cases hsigned : number.signed? with
  | none => exact ⟨_, rfl⟩
  | some other =>
    obtain rfl : value = other :=
      Option.some.inj (written.symm.trans (Option.filter_eq_some_iff.1 hsigned).1)
    exact ⟨_, signedOr_of_not_fits h⟩

/-- A number is bound as the integer that it is. -/
theorem writesInteger_of_binaryInteger (positive : 0 < count) (whole : number.toInt? = some value)
    (h : number.binaryInteger count = .ok bytes) : WritesInteger count value bytes := by
  rw [binaryInteger] at h
  cases hsigned : number.signed? with
  | none => simp [hsigned] at h
  | some other =>
    have hwritten : number.int? = some other := (Option.filter_eq_some_iff.1 hsigned).1
    obtain rfl : other = value := Option.some.inj ((toInt?_of_int? hwritten).symm.trans whole)
    rw [hsigned] at h
    exact writesInteger_of_signedOr positive h

/-- A number that is valid for an integer field is an integer, and is encoded.  If it is written as
an integer, it is bound to every integer type that can hold it, as exactly this integer, and refused
by the others.  No valid number is bound as another integer. -/
theorem binds_integer {field : Field} {path : String} {mode : ValidationMode}
    (integer : field.isInteger = true)
    (valid : field.validate (.number number) path mode = .ok ()) :
    ∃ value parameter, number.toInt? = some value ∧
      Parameter.ofValue (.number number) (some field) = .ok parameter ∧
      ∀ type count, type.integerBytes? = some count →
        (number.int? = some value → FitsBytes count value →
          ∃ bytes, parameter.binary type = .ok (some bytes) ∧ WritesInteger count value bytes) ∧
        (number.int? = some value → ¬ FitsBytes count value →
          ∃ failure, parameter.binary type = .error failure) ∧
        ∀ bytes, parameter.binary type = .ok (some bytes) → WritesInteger count value bytes := by
  obtain ⟨kind, _, _, _, _⟩ := field
  obtain rfl : kind = .number (some .integer) := by
    cases kind with
    | number format => cases format with
      | none => simp [Field.isInteger] at integer
      | some format => cases format <;> simp [Field.isInteger] at integer ⊢
    | _ => simp [Field.isInteger] at integer
  have hintegral : number.isIntegral = true := by
    simpa [Field.validate, FieldKind.validate, checkNumber, ensure] using valid
  obtain ⟨value, hvalue⟩ := Option.isSome_iff_exists.1 (number.isSome_toInt?.trans hintegral)
  refine ⟨value, .plain (.number number), hvalue, rfl, fun type count width => ?_⟩
  obtain ⟨hpositive, hnarrow, hbinary⟩ := binary_of_integerBytes? number width
  have hbind : (Parameter.plain (.number number)).binary type =
      some <$> number.binaryInteger count := by
    rw [← hbinary]
    rfl
  rw [hbind]
  refine ⟨fun written fits => ?_, fun written hfits => ?_, fun bytes hbytes => ?_⟩
  · obtain ⟨bytes, hbytes, hwrites⟩ := exists_binaryInteger written hpositive hnarrow fits
    rw [hbytes]
    exact ⟨bytes, rfl, hwrites⟩
  · obtain ⟨failure, hfailure⟩ := binaryInteger_of_not_fits written hfits
    rw [hfailure]
    exact ⟨failure, rfl⟩
  · obtain ⟨written, hwritten, hbytes⟩ := map_eq_ok_iff.1 hbytes
    obtain rfl := Option.some.inj hbytes
    exact writesInteger_of_binaryInteger hpositive hvalue hwritten

/-- The integer -40000 is bound in four bytes; two bytes cannot hold it. -/
theorem binds_integer_negative :
    ∃ (field : Field) (number : Number) (parameter : Parameter),
      field.isInteger = true ∧ field.validate (.number number) "book.id" .full = .ok () ∧
      number.int? = some (-40000) ∧
      Parameter.ofValue (.number number) (some field) = .ok parameter ∧
      (∃ bytes, parameter.binary .int4 = .ok (some bytes) ∧ WritesInteger 4 (-40000) bytes) ∧
      ∃ failure, parameter.binary .int2 = .error failure := by
  let field : Field := .ofKind (.number (some .integer))
  let number : Number := .integer (-40000) (by decide)
  have integer : field.isInteger = true := rfl
  have valid : field.validate (.number number) "book.id" .full = .ok () := rfl
  obtain ⟨value, parameter, hvalue, hparameter, hbinds⟩ := binds_integer integer valid
  obtain rfl : -40000 = value := Option.some.inj hvalue
  exact ⟨field, number, parameter, integer, valid, rfl, hparameter,
    (hbinds .int4 4 rfl).1 rfl (by decide), (hbinds .int2 2 rfl).2.1 rfl (by decide)⟩

/-- The least integer beyond the signed ones of 64 bits is valid and encoded, but it cannot be
bound, not even to the widest integer type. -/
theorem large_integer_not_bound :
    ∃ (field : Field) (number : Number) (parameter : Parameter),
      field.isInteger = true ∧ field.validate (.number number) "book.id" .full = .ok () ∧
      number.toInt? = some (2 ^ 63) ∧
      Parameter.ofValue (.number number) (some field) = .ok parameter ∧
      parameter.binary .int8 = .error .notInteger :=
  ⟨.ofKind (.number (some .integer)), .integer (2 ^ 63) (by decide), _, rfl, rfl, rfl, rfl, rfl⟩

end Number

end RelationalQuery
