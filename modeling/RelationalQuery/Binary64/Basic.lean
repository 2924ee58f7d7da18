/-!
# Finite doubles in exact arithmetic

A finite double is a sign together with a magnitude `significand * 2 ^ exponent`, counted in units
of the least positive double `2 ^ -1074`.  The representation is canonical, so two finite doubles
are equal exactly when their bit patterns are.

Main definitions:

- `FloatFormat.round?` rounds a quotient of natural numbers to the nearest value of a binary format,
  with ties to the even significand, and reports overflow.
- `Binary64.ofRatio?`, `Binary64.mul?` and `Binary64.div?` are the correctly rounded operations.
- `Binary64.toBits` and `Binary64.singleBits` give the interchange bit patterns.
- `Binary64.isIntegral` recognises the doubles without a fractional part.
-/

namespace RelationalQuery

/-! ## Rounding to a binary format -/

/-- The quotient of two natural numbers rounded to the nearest natural number; a tie goes to the
even one. -/
def roundHalfEven (numerator denominator : Nat) : Nat :=
  let quotient := numerator / denominator
  let remainder := numerator % denominator
  if 2 * remainder < denominator then quotient
  else if denominator < 2 * remainder then quotient + 1
  else if quotient % 2 = 0 then quotient
  else quotient + 1

/-- A binary interchange format: the number of stored fraction bits, the negated exponent of the
least positive value, the largest exponent of a finite value counted from that unit, and the bits of
a pattern without the sign. -/
structure FloatFormat where
  fractionBits : Nat
  unitExponent : Nat
  maxExponent : Nat
  magnitudeBits : Nat

/-- The format with 64 bits. -/
def FloatFormat.double : FloatFormat := ⟨52, 1074, 2045, 63⟩

/-- The format with 32 bits. -/
def FloatFormat.single : FloatFormat := ⟨23, 149, 253, 31⟩

/-- The significand and the exponent of the value nearest to a quotient, or `none` when that value
lies beyond the largest finite one. -/
def FloatFormat.round? (format : FloatFormat) (numerator denominator : Nat) : Option (Nat × Nat) :=
  let units := numerator <<< format.unitExponent
  let exponent := Nat.log2 (units / denominator) - format.fractionBits
  let significand := roundHalfEven units (denominator <<< exponent)
  let carried := 1 <<< (format.fractionBits + 1)
  let rounded :=
    if significand = carried then (1 <<< format.fractionBits, exponent + 1)
    else (significand, exponent)
  if rounded.2 ≤ format.maxExponent then some rounded else none

/-- The magnitude part of the bit pattern of a canonical significand and exponent. -/
def FloatFormat.magnitudePattern (format : FloatFormat) (significand exponent : Nat) : Nat :=
  let implicit := 1 <<< format.fractionBits
  if significand < implicit then significand
  else (exponent + 1) * implicit + (significand - implicit)

/-- The magnitude part of the bit pattern of infinity. -/
def FloatFormat.infinityPattern (format : FloatFormat) : Nat :=
  (format.maxExponent + 2) <<< format.fractionBits

/-- The sign bit in front of a magnitude pattern. -/
def FloatFormat.signed (format : FloatFormat) (negative : Bool) (magnitude : Nat) : Nat :=
  if negative then 1 <<< format.magnitudeBits + magnitude else magnitude

/-! ## Finite doubles -/

/-- A finite double: a sign and `significand * 2 ^ exponent` units of `2 ^ -1074`. -/
structure Binary64 where
  negative : Bool
  significand : Nat
  exponent : Nat
  significand_lt : significand < 1 <<< 53
  exponent_le : exponent ≤ 2045
  canonical : exponent = 0 ∨ 1 <<< 52 ≤ significand
deriving DecidableEq

namespace Binary64

/-- Positive zero. -/
def zero : Binary64 := ⟨false, 0, 0, by decide, by decide, by decide⟩

/-- The double with the given parts, when they are canonical. -/
def make? (negative : Bool) (significand exponent : Nat) : Option Binary64 :=
  if h : significand < 1 <<< 53 ∧ exponent ≤ 2045 ∧ (exponent = 0 ∨ 1 <<< 52 ≤ significand) then
    some ⟨negative, significand, exponent, h.1, h.2.1, h.2.2⟩
  else none

/-- The double nearest to a quotient, with the given sign; `none` on overflow. -/
def ofRatio? (negative : Bool) (numerator denominator : Nat) : Option Binary64 :=
  (FloatFormat.double.round? numerator denominator).bind fun parts =>
    make? negative parts.1 parts.2

/-- The magnitude in units of `2 ^ -1074`. -/
def units (x : Binary64) : Nat := x.significand <<< x.exponent

/-- The number of units in one. -/
def unitsPerOne : Nat := 1 <<< 1074

/-- The same magnitude with the given sign. -/
def withSign (x : Binary64) (negative : Bool) : Binary64 := { x with negative }

/-- The magnitude is zero. -/
def isZero (x : Binary64) : Bool := x.significand == 0

/-- The value has no fractional part. -/
def isIntegral (x : Binary64) : Bool := x.units % unitsPerOne == 0

/-- The correctly rounded product; `none` on overflow. -/
def mul? (x y : Binary64) : Option Binary64 :=
  ofRatio? (xor x.negative y.negative) (x.units * y.units) (unitsPerOne * unitsPerOne)

/-- The correctly rounded quotient by a nonzero double; `none` on overflow or division by zero. -/
def div? (x y : Binary64) : Option Binary64 :=
  if y.isZero then none
  else ofRatio? (xor x.negative y.negative) x.units y.units

/-! ## Bit patterns -/

/-- The 64 bits of the interchange format. -/
def toBits (x : Binary64) : Nat :=
  FloatFormat.double.signed x.negative
    (FloatFormat.double.magnitudePattern x.significand x.exponent)

/-- The 32 bits of the nearest single; a magnitude beyond the largest single becomes infinity. -/
def singleBits (x : Binary64) : Nat :=
  let format := FloatFormat.single
  let magnitude := match format.round? x.units unitsPerOne with
    | some parts => format.magnitudePattern parts.1 parts.2
    | none => format.infinityPattern
  format.signed x.negative magnitude

end Binary64

end RelationalQuery
