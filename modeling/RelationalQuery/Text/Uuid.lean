import RelationalQuery.Text.Digit

/-!
# Universally unique identifiers

An identifier of sixteen bytes is read from 32 hexadecimal digits, from the hyphenated form with
groups of 8, 4, 4, 4 and 12 digits, from that form in braces, and from that form behind `urn:uuid:`
in any letter case.

Main definitions:

- `Uuid` is an identifier; `Uuid.ofText?` reads one and `Uuid.text` writes the hyphenated form.
-/

namespace RelationalQuery

/-- An identifier of sixteen bytes. -/
structure Uuid where
  bytes : List UInt8
  length_bytes : bytes.length = 16
deriving DecidableEq

namespace Uuid

/-- The bytes of pairs of hexadecimal digits. -/
def readBytes? : List Char → Option (List UInt8)
  | [] => some []
  | [_] => none
  | high :: low :: rest => do
    let value := (← Text.hexValue? high) * 16 + (← Text.hexValue? low)
    return UInt8.ofNat value :: (← readBytes? rest)

/-- The identifier written by 32 hexadecimal digits. -/
def ofDigits? (digits : List Char) : Option Uuid := do
  let bytes ← readBytes? digits
  if h : bytes.length = 16 then some ⟨bytes, h⟩ else none

/-- The positions of the hyphens in the hyphenated form. -/
def hyphenPositions : List Nat := [8, 13, 18, 23]

/-- The hyphens stand at their positions. -/
def hyphensInPlace (cs : List Char) : Bool := hyphenPositions.all fun i => cs[i]? == some '-'

/-- The digits of the hyphenated form, without its hyphens. -/
def withoutHyphens (cs : List Char) : List Char :=
  cs.take 8 ++ (cs.drop 9).take 4 ++ (cs.drop 14).take 4 ++ (cs.drop 19).take 4 ++ cs.drop 24

/-- The identifier of the hyphenated form. -/
def ofHyphenated? (cs : List Char) : Option Uuid :=
  if cs.length = 36 ∧ hyphensInPlace cs then ofDigits? (withoutHyphens cs) else none

/-- The text in front of the hyphenated form in a name of a resource. -/
def urnLabel : List Char := ['u', 'r', 'n', ':', 'u', 'u', 'i', 'd', ':']

/-- The identifier written by a text in one of the four forms. -/
def ofText? (text : String) : Option Uuid :=
  let cs := text.toList
  if cs.length = 32 then ofDigits? cs
  else if cs.length = 36 then ofHyphenated? cs
  else if cs.length = 38 ∧ cs.head? = some '\x7b' ∧ cs.getLast? = some '\x7d' then
    ofHyphenated? (cs.drop 1).dropLast
  else if (cs.take 9).map Char.toLower = urnLabel then ofHyphenated? (cs.drop 9)
  else none

/-- The two hexadecimal digits of a byte, in lower case. -/
def byteText (byte : UInt8) : List Char :=
  [Nat.digitChar (byte.toNat / 16), Nat.digitChar (byte.toNat % 16)]

/-- The hyphenated form in lower case. -/
def text (uuid : Uuid) : String :=
  let group (start count : Nat) := ((uuid.bytes.drop start).take count).flatMap byteText
  String.ofList (group 0 4 ++ '-' :: group 4 2 ++ '-' :: group 6 2 ++ '-' :: group 8 2 ++
    '-' :: group 10 6)

end Uuid

end RelationalQuery
