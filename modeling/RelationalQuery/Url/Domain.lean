import RelationalQuery.Text.Split
import RelationalQuery.Url.Label

/-!
# Domain names

A domain name is written with percent escapes.  It is accepted when its escapes give a text, when
none of its characters is forbidden in a domain, when its labels are valid, and when it is not
empty.

Main definitions:

- `Url.unescape` undoes percent escapes.
- `Url.domain?` is the domain that a host text stands for.
-/

namespace RelationalQuery.Url

/-! ## Percent escapes -/

/-- The bytes of a character. -/
def utf8Bytes (c : Char) : List UInt8 := (String.singleton c).toUTF8.toList

/-- The bytes of a text, with a percent sign and two hexadecimal digits read as one byte. -/
def unescape : List Char → List UInt8
  | [] => []
  | '%' :: a :: b :: rest =>
    match Text.hexValue? a, Text.hexValue? b with
    | some high, some low => UInt8.ofNat (16 * high + low) :: unescape rest
    | _, _ => utf8Bytes '%' ++ unescape (a :: b :: rest)
  | c :: rest => utf8Bytes c ++ unescape rest

/-- The text with the given bytes. -/
def textOfBytes? (bytes : List UInt8) : Option (List Char) :=
  (String.fromUTF8? ⟨bytes.toArray⟩).map String.toList

/-! ## Domains -/

/-- The character is forbidden in a domain. -/
def isForbiddenInDomain (c : Char) : Bool :=
  c.toNat ≤ 0x20 || c.toNat == 0x7F ||
    ['%', '#', '/', ':', '<', '>', '?', '@', '[', '\\', ']', '^', '|'].contains c

/-- The labels of a domain are valid.  If one of them is written from right to left in part, every
label has one direction. -/
def areLabels (domain : List Char) : Bool :=
  match (Text.fields '.' domain).mapM plainLabel? with
  | none => false
  | some labels =>
    labels.all isLabel && (!labels.any isBidirectional || labels.all hasOneDirection)

/-- The domain that a host text stands for. -/
def domain? (host : List Char) : Option (List Char) := do
  let domain ← normalText? (← textOfBytes? (unescape host))
  if domain.isEmpty ∨ domain.any isForbiddenInDomain then none
  else if areLabels domain then some domain
  else none

end RelationalQuery.Url
