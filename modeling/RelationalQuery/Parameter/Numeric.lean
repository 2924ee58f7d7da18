import RelationalQuery.Json.Basic
import RelationalQuery.Text.Digit

/-!
# Exact decimals and their binary form

A number that is bound to a column of exact decimals is taken at its written decimal value, rounded
to 28 places, which has to have less than `2 ^ 96` units of its last place.  In binary such a
decimal is a sequence of digits to the base 10000, aligned at the decimal point.

Main definitions:

- `bigEndian` writes an unsigned and `signedBigEndian` a signed integer in a number of bytes.
- `Numeric` is a decimal; `Numeric.ofNumber?` takes the written value of a number.
- `Numeric.binary` is its binary form.
-/

namespace RelationalQuery

/-! ## Integers in bytes -/

/-- The lowest bytes of a natural number, the most significant one first. -/
def bigEndian : Nat → Nat → List UInt8
  | 0, _ => []
  | count + 1, value => bigEndian count (value / 256) ++ [UInt8.ofNat (value % 256)]

/-- The lowest bytes of an integer in two's complement, the most significant one first. -/
def signedBigEndian (count : Nat) (value : Int) : List UInt8 :=
  bigEndian count (value % Nat.pow 256 count).toNat

/-! ## Decimals -/

/-- A decimal: so many units of the last of `scale` places. -/
structure Numeric where
  negative : Bool
  units : Nat
  scale : Nat
deriving DecidableEq

namespace Numeric

/-- The largest number of places. -/
def maxScale : Nat := 28

/-- The quotient of two numbers rounded to the nearest number; a tie goes up. -/
def roundedUp (dividend divisor : Nat) : Nat := (2 * dividend + divisor) / (2 * divisor)

/-- The written value of a double, rounded to the largest number of places.  Positional text has one
place at least, scientific text none.  A value whose first digit lies behind all places is
refused. -/
def ofBinary64? (x : Binary64) : Option Numeric :=
  if x.isZero then some ⟨x.negative, 0, 1⟩
  else
    let shortest := x.shortest
    let places : Int := shortest.digits.length - shortest.position
    let leastScale := if Binary64.layout.isPlain shortest.position then 1 else 0
    let scale := max leastScale (min maxScale places.toNat)
    let units := roundedUp (Text.decimalValue shortest.digits * Nat.pow 10 (scale - places).toNat)
      (Nat.pow 10 (places - scale).toNat)
    if 1 - shortest.position ≤ maxScale ∧ units < 1 <<< 96 then some ⟨x.negative, units, scale⟩
    else none

/-- The written value of a number. -/
def ofNumber? : Number → Option Numeric
  | .integer value _ => some ⟨decide (value < 0), value.natAbs, 0⟩
  | .real value => ofBinary64? value

/-! ## Binary form -/

/-- The digits of a number to the base 10000 in front of further digits. -/
def groups (n : Nat) (lower : List Nat) : List Nat :=
  if n = 0 then lower else groups (n / 10000) (n % 10000 :: lower)
termination_by n
decreasing_by omega

/-- The number of groups behind the decimal point. -/
def fractionGroups (x : Numeric) : Nat := (x.scale + 3) / 4

/-- All groups of a decimal, aligned at the decimal point. -/
def alignedGroups (x : Numeric) : List Nat :=
  groups (x.units * Nat.pow 10 (4 * x.fractionGroups - x.scale)) []

/-- The groups that are written.  Zero groups at the end of the fraction are dropped if there is a
whole part. -/
def writtenGroups (x : Numeric) : List Nat :=
  let all := x.alignedGroups
  if x.fractionGroups < all.length then
    let whole := all.length - x.fractionGroups
    all.take whole ++ ((all.drop whole).reverse.dropWhile (· == 0)).reverse
  else all

/-- The binary form: the number of groups, the weight of the first one, the sign, the number of
places and the groups, two bytes each.  Zero has no groups and no places. -/
def binary (x : Numeric) : List UInt8 :=
  if x.units = 0 then bigEndian 8 0
  else
    let written := x.writtenGroups
    let weight : Int := x.alignedGroups.length - x.fractionGroups - 1
    bigEndian 2 written.length ++ signedBigEndian 2 weight ++
      bigEndian 2 (if x.negative then 0x4000 else 0) ++ bigEndian 2 x.scale ++
      written.flatMap (bigEndian 2)

end Numeric

end RelationalQuery
