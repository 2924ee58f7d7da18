import RelationalQuery.Url.Mapping
import RelationalQuery.Url.Punycode

/-!
# Labels of domain names

Main definitions:

- `Url.plainLabel?` is a label with its encoding undone.
- `Url.isLabel` checks the characters of a label, and `Url.hasOneDirection` the direction in which
  it is written.
-/

namespace RelationalQuery.Url

open Unicode (JoiningType WritingClass isAscii isMark isVirama)

/-! ## Encoded labels -/

/-- The largest number of characters of an encoded label behind its mark. -/
def maxEncodedLength : Nat := 2000

/-- The text behind the mark of an encoded label. -/
def encoded? : List Char → Option (List Char)
  | 'x' :: 'n' :: '-' :: '-' :: encoded => some encoded
  | _ => none

/-- A label with its encoding undone.  An encoded label is in ASCII and not too long, and stands for
a label that stands for itself and is not encoded once more. -/
def plainLabel? (label : List Char) : Option (List Char) :=
  match encoded? label with
  | none => some label
  | some encoded =>
    if encoded.all isAscii ∧ encoded.length ≤ maxEncodedLength then do
      let plain ← decodeLabel? encoded
      if normalText? plain = some plain ∧ (encoded? plain).isNone then some plain else none
    else none

/-! ## Joiners -/

/-- The sign that joins the letters around it. -/
def joiner : Char := '\u200d'

/-- The sign that separates the letters around it. -/
def nonJoiner : Char := '\u200c'

/-- The first letter of a text, behind transparent characters, is joined to both sides or in the
given way. -/
def meetsJoined (type : JoiningType) (text : List Char) : Bool :=
  match (text.map JoiningType.ofChar).find? (· ≠ .transparent) with
  | some found => found == .dual || found == type
  | none => false

/-- The character may stand behind a text, given in reverse, and in front of another: a joiner
stands behind a sign that joins consonants, and its opposite also between letters that would be
joined. -/
def isInPlace (before : List Char) (c : Char) (behind : List Char) : Bool :=
  if c = joiner then before.head?.any isVirama
  else if c = nonJoiner then
    before.head?.any isVirama || (meetsJoined .behind before && meetsJoined .front behind)
  else true

/-- All characters may stand where they do, behind a text given in reverse. -/
def areInPlace : List Char → List Char → Bool
  | _, [] => true
  | before, c :: behind => isInPlace before c behind && areInPlace (c :: before) behind

/-- The largest number of characters of a label that is not in ASCII. -/
def maxPlainLength : Nat := 1000

/-- A label does not begin with a mark, its joiners are in place, and it is not too long. -/
def isLabel (label : List Char) : Bool :=
  !label.head?.any isMark && areInPlace [] label &&
    (label.all isAscii || decide (label.length ≤ maxPlainLength))

/-! ## Directions -/

/-- A label is written from right to left in part. -/
def isBidirectional (label : List Char) : Bool :=
  label.any fun c => WritingClass.ofChar c = .right || WritingClass.ofChar c = .arabicNumber

/-- The classes of a label without the marks at its end. -/
def endingClasses (label : List Char) : List WritingClass :=
  (label.map WritingClass.ofChar).reverse.dropWhile (· = .nonspacing)

/-- A label that begins with a letter has the direction of that letter, and ends with a letter of
that direction or a digit. -/
def hasOneDirection (label : List Char) : Bool :=
  let classes := label.map WritingClass.ofChar
  let ending := (endingClasses label).head?
  match classes.head? with
  | none => true
  | some .left =>
    !classes.contains .right && !classes.contains .arabicNumber &&
      (ending = some .left || ending = some .europeanNumber)
  | some .right =>
    !classes.contains .left &&
      !(classes.contains .europeanNumber && classes.contains .arabicNumber) &&
      (ending = some .right || ending = some .europeanNumber || ending = some .arabicNumber)
  | some _ => false

end RelationalQuery.Url
