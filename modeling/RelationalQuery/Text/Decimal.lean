/-!
# Decimal text of integers

Main definitions:

- `Text.natural` and `Text.integer` write a number in decimal without padding.
- `Text.padded` writes a natural number with at least the given number of digits.
-/

namespace RelationalQuery.Text

/-- A natural number in decimal. -/
def natural (n : Nat) : String := String.ofList (Nat.toDigits 10 n)

/-- An integer in decimal, with a minus sign in front of a negative one. -/
def integer (n : Int) : String :=
  if n < 0 then "-" ++ natural n.natAbs else natural n.natAbs

/-- A natural number in decimal with leading zeros up to the given width. -/
def padded (width n : Nat) : String :=
  let digits := Nat.toDigits 10 n
  String.ofList (List.replicate (width - digits.length) '0' ++ digits)

end RelationalQuery.Text
