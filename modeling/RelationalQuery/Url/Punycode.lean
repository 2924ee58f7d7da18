import RelationalQuery.Text.Digit

/-!
# Encoded labels

A label of a domain name that is not in ASCII is written by the ASCII characters in it, a hyphen,
and the other characters with their places as a sequence of digits to the base 36.

Main definitions:

- `Url.Decoding` is the state behind some digits, and `Url.Decoding.next?` reads one more.
- `Url.decodeLabel?` is the label that an encoded label stands for.
-/

namespace RelationalQuery.Url

/-- The value of a digit: letters come before the ten digits. -/
def base36Value? (c : Char) : Option Nat :=
  if 'a' ≤ c ∧ c ≤ 'z' then some (c.toNat - 'a'.toNat)
  else if '0' ≤ c ∧ c ≤ '9' then some (c.toNat - '0'.toNat + 26)
  else none

/-- The character with a code point. -/
def charOfCode? (code : Nat) : Option Char :=
  if code < 0xD800 ∨ (0xDFFF < code ∧ code < 0x110000) then some (Char.ofNat code) else none

/-- What has been read of an encoded label: the decoded characters, the code point and the place
that are counted up, the adapted bias, and the number that is being read: its place before, the
weight of its next digit and the number of the digit. -/
structure Decoding where
  chars : List Char
  code : Nat
  place : Nat
  bias : Nat
  placeBefore : Nat
  weight : Nat
  digits : Nat

namespace Decoding

/-- Nothing but the ASCII characters has been read. -/
def start (ascii : List Char) : Decoding := ⟨ascii, 128, 0, 72, 0, 1, 0⟩

/-- Scale a step down to the range of the bias, and count how often. -/
def scaledBias (delta count : Nat) : Nat :=
  if delta ≤ 455 then 36 * count + 36 * delta / (delta + 38)
  else scaledBias (delta / 35) (count + 1)
termination_by delta
decreasing_by omega

/-- The bias after a step. -/
def adaptedBias (delta length : Nat) (isFirst : Bool) : Nat :=
  let damped := if isFirst then delta / 700 else delta / 2
  scaledBias (damped + damped / length) 0

/-- The value from which on a digit is not the last one of its number. -/
def threshold (decoding : Decoding) : Nat :=
  max 1 (min 26 (36 * (decoding.digits + 1) - decoding.bias))

/-- Insert the character that a number leads to. -/
def insert? (decoding : Decoding) (place : Nat) : Option Decoding := do
  let length := decoding.chars.length + 1
  let code := decoding.code + place / length
  let char ← charOfCode? code
  let index := place % length
  return {
    chars := decoding.chars.take index ++ char :: decoding.chars.drop index
    code := code
    place := index + 1
    bias := adaptedBias (place - decoding.placeBefore) length (decoding.placeBefore == 0)
    placeBefore := index + 1
    weight := 1
    digits := 0 }

/-- Places and weights are below this number. -/
def limit : Nat := 0x100000000

/-- Read one more digit. -/
def next? (decoding : Decoding) (c : Char) : Option Decoding := do
  let digit ← base36Value? c
  let place := decoding.place + digit * decoding.weight
  let weight := decoding.weight * (36 - decoding.threshold)
  if limit ≤ place then none
  else if digit < decoding.threshold then decoding.insert? place
  else if limit ≤ weight then none
  else return { decoding with place, weight, digits := decoding.digits + 1 }

end Decoding

/-- The label that an encoded label stands for.  There is a character that is not in ASCII, the
hyphen is only written behind ASCII characters, and the last number is complete. -/
def decodeLabel? (label : List Char) : Option (List Char) := do
  let digits := (label.reverse.takeWhile (· ≠ '-')).reverse
  let front := label.take (label.length - digits.length)
  if digits.isEmpty ∨ front.length = 1 then none
  else
    let decoding ← digits.foldlM Decoding.next? (Decoding.start front.dropLast)
    if decoding.digits = 0 then some decoding.chars else none

end RelationalQuery.Url
