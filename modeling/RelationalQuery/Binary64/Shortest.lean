import RelationalQuery.Binary64.Basic

/-!
# Shortest decimal text of a double

The text of a finite double has the fewest significant digits that still read back as that double;
among those the nearest to its exact value is written, and a tie goes to the even last digit.

Main definitions:

- `Binary64.Interval` holds the reals that round to a double, as exact naturals on a common scale.
- `Binary64.shortest` finds the digits and their decimal position.
- `DecimalLayout` says how digits are laid out as text; `Binary64.text` uses it.
-/

namespace RelationalQuery

namespace Binary64

/-! ## The reals that round to a double -/

/-- The magnitude of a double, and the ends of the interval of reals that round to it, as multiples
of a common unit; the ends belong to the interval exactly when the significand is even. -/
structure Interval where
  value : Nat
  low : Nat
  high : Nat
  closed : Bool

/-- The number of decimal places of the scale on which intervals are written. -/
def scalePlaces : Nat := 400

/-- The number of units of the scale of intervals in `10 ^ -scalePlaces`. -/
def unitsPerPlace : Nat := 1 <<< 1076

/-- The interval of a nonzero double.  The gap below a power of two is half the gap above it, except
at the least exponent. -/
def interval (x : Binary64) : Interval :=
  let unit := Nat.pow 10 scalePlaces <<< x.exponent
  let below := if x.significand = 1 <<< 52 ∧ 0 < x.exponent then 1 else 2
  let value := 4 * x.significand * unit
  ⟨value, value - below * unit, value + 2 * unit, x.significand % 2 == 0⟩

/-- A point lies in the interval. -/
def Interval.contains (i : Interval) (point : Nat) : Bool :=
  if i.closed then decide (i.low ≤ point) && decide (point ≤ i.high)
  else decide (i.low < point) && decide (point < i.high)

/-- The distance of a point from the exact value. -/
def Interval.distance (i : Interval) (point : Nat) : Nat :=
  (i.value - point) + (point - i.value)

/-! ## Shortest digits -/

/-- Of the two neighbours of the exact value on a decimal grid the one to write, if any lies in the
interval: the nearer, and in a tie the even one. -/
def Interval.onGrid? (i : Interval) (grid : Nat) : Option Nat :=
  let lower := i.value / grid
  let upper := lower + 1
  let fitsLower := 0 < lower && i.contains (lower * grid)
  let fitsUpper := i.contains (upper * grid)
  match fitsLower, fitsUpper with
  | false, false => none
  | true, false => some lower
  | false, true => some upper
  | true, true =>
    let toLower := i.distance (lower * grid)
    let toUpper := i.distance (upper * grid)
    if toLower < toUpper then some lower
    else if toUpper < toLower then some upper
    else if lower % 2 = 0 then some lower
    else some upper

/-- The first hit over grids of growing fineness; `places` is the number of decimal places above the
scale that the grid leaves out. -/
def Interval.search (i : Interval) : Nat → Nat → Nat × Nat
  | 0, places => (i.value / (Nat.pow 10 places * unitsPerPlace), places)
  | fuel + 1, places =>
    match i.onGrid? (Nat.pow 10 places * unitsPerPlace) with
    | some digits => (digits, places)
    | none => search i fuel (places - 1)

/-- Drop the trailing zeros of a digit sequence. -/
def dropTrailingZeros (digits : List Char) : List Char :=
  (digits.reverse.dropWhile (· == '0')).reverse

/-- Significant digits without trailing zeros, read as `0.d₁d₂… * 10 ^ position`. -/
structure Decimal where
  digits : List Char
  position : Int

/-- The shortest digits of a nonzero double.  Seventeen digits always read back. -/
def shortest (x : Binary64) : Decimal :=
  let i := x.interval
  let wholeDigits := (Nat.toDigits 10 (i.value / unitsPerPlace)).length
  let found := i.search 17 (wholeDigits - 1)
  let digits := Nat.toDigits 10 found.1
  ⟨dropTrailingZeros digits, (digits.length + found.2 : Int) - scalePlaces⟩

end Binary64

/-! ## Layout of digits -/

/-- How digits are laid out: positions in `[firstPlain, lastPlain]` are written positionally and the
others with an exponent. -/
structure DecimalLayout where
  firstPlain : Int
  lastPlain : Int

/-- Positional notation, with at least one digit on each side of the point. -/
def DecimalLayout.plain (digits : List Char) (position : Int) : List Char :=
  if position ≤ 0 then
    ['0', '.'] ++ List.replicate (-position).toNat '0' ++ digits
  else if digits.length ≤ position.toNat then
    digits ++ List.replicate (position.toNat - digits.length) '0' ++ ['.', '0']
  else
    digits.take position.toNat ++ ['.'] ++ digits.drop position.toNat

/-- Scientific notation: one digit before the point, and a signed exponent without padding. -/
def DecimalLayout.scientific (digits : List Char) (position : Int) : List Char :=
  let exponent := position - 1
  let fraction := match digits.drop 1 with
    | [] => []
    | rest => '.' :: rest
  let sign := if exponent < 0 then '-' else '+'
  digits.take 1 ++ fraction ++ ['e', sign] ++ Nat.toDigits 10 exponent.natAbs

/-- Digits at a position are written positionally. -/
def DecimalLayout.isPlain (layout : DecimalLayout) (position : Int) : Bool :=
  decide (layout.firstPlain ≤ position ∧ position ≤ layout.lastPlain)

/-- The text of the digits. -/
def DecimalLayout.write (layout : DecimalLayout) (x : Binary64.Decimal) : List Char :=
  if layout.isPlain x.position then
    DecimalLayout.plain x.digits x.position
  else
    DecimalLayout.scientific x.digits x.position

namespace Binary64

/-- Magnitudes from `1e-5` up to but not including `1e16` are written positionally. -/
def layout : DecimalLayout := ⟨-4, 16⟩

/-- The shortest text of a double; a zero keeps its sign. -/
def text (x : Binary64) : String :=
  let magnitude := if x.isZero then ['0', '.', '0'] else layout.write x.shortest
  String.ofList (if x.negative then '-' :: magnitude else magnitude)

end Binary64

end RelationalQuery
