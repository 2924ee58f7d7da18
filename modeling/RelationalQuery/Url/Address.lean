import RelationalQuery.Text.Digit
import RelationalQuery.Text.Split

/-!
# Numeric addresses of hosts

Main definitions:

- `Url.endsInNumber` decides whether a host has to be an address of version 4, and
  `Url.isAddress4` whether it is one; parts may be decimal, octal or hexadecimal, and the last part
  fills the bytes that are left.
- `Url.isAddress6` recognises an address of version 6 without its brackets.
-/

namespace RelationalQuery.Url

/-! ## Version 4 -/

/-- The digits of a part of an address, and their base. -/
def partDigits : List Char → Nat × List Char
  | '0' :: 'x' :: rest => (16, rest)
  | '0' :: 'X' :: rest => (16, rest)
  | '0' :: c :: rest => (8, c :: rest)
  | cs => (10, cs)

/-- The value of a part of an address; a base without digits stands for zero. -/
def partValue? : List Char → Option Nat
  | [] => none
  | cs =>
    let (base, digits) := partDigits cs
    digits.foldlM
      (fun n c => ((Text.hexValue? c).filter (· < base)).map (n * base + ·)) 0

/-- The last part of a dotted host that is not empty, a final dot being ignored. -/
def lastPart? (host : List Char) : Option (List Char) :=
  match (Text.fields '.' host).reverse with
  | [] :: part :: _ => some part
  | [] :: [] => none
  | part :: _ => some part
  | [] => none

/-- The last part of a host looks like a number. -/
def endsInNumber (host : List Char) : Bool :=
  match lastPart? host with
  | none => false
  | some part => (!part.isEmpty && part.all Text.isDigit) || (partValue? part).isSome

/-- The parts of a dotted host, a final dot being ignored. -/
def addressParts (host : List Char) : List (List Char) :=
  let parts := Text.fields '.' host
  if parts.getLast? = some [] then parts.dropLast else parts

/-- The host is an address of version 4. -/
def isAddress4 (host : List Char) : Bool :=
  let parts := addressParts host
  match (parts.mapM partValue?).map List.reverse with
  | some (last :: others) =>
    parts.length ≤ 4 && others.all (· ≤ 255) && last < Nat.pow 256 (4 - others.length)
  | _ => false

/-! ## Version 6 -/

/-- The text is a decimal number up to 255 without leading zeros. -/
def isOctet (cs : List Char) : Bool :=
  !cs.isEmpty && cs.all Text.isDigit && Text.decimalValue cs ≤ 255 &&
    (cs.length == 1 || cs.head? != some '0')

/-- The text is four octets between dots. -/
def isOctets (cs : List Char) : Bool :=
  let parts := Text.fields '.' cs
  parts.length == 4 && parts.all isOctet

/-- The character is a hexadecimal digit. -/
def isHexDigit (c : Char) : Bool := (Text.hexValue? c).isSome

/-- The groups of an address of version 6: `count` of its eight groups are read, and `compressed`
says whether the run of left out groups has been seen.  The last two groups may be four octets. -/
def isGroups (count : Nat) (compressed : Bool) (cs : List Char) : Bool :=
  match cs with
  | [] => compressed || count == 8
  | c :: rest =>
    if count = 8 then false
    else if c = ':' then !compressed && isGroups (count + 1) true rest
    else
      let digits := ((c :: rest).take 4).takeWhile isHexDigit
      match _after : (c :: rest).drop digits.length with
      | [] => isGroups (count + 1) compressed []
      | '.' :: _ =>
        !digits.isEmpty && decide (count ≤ 6) && isOctets (c :: rest) &&
          (compressed || count + 2 == 8)
      | ':' :: more => !more.isEmpty && isGroups (count + 1) compressed more
      | _ => false
termination_by cs.length
decreasing_by
  · simp
  · simp
  · have := congrArg List.length _after
    simp at this ⊢
    omega

/-- The text is an address of version 6. -/
def isAddress6 : List Char → Bool
  | ':' :: ':' :: rest => isGroups 1 true rest
  | ':' :: _ => false
  | [_] => false
  | [] => false
  | cs => isGroups 0 false cs

end RelationalQuery.Url
