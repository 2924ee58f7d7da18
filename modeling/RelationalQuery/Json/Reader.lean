import RelationalQuery.Json.Basic
import RelationalQuery.Text.Digit

/-!
# Reading JSON text

Text is split into tokens, and the tokens are fed one by one to a machine that keeps the containers
that are still open.  A text with too many open containers at once is refused.

A number literal without fraction and exponent is an integer when it fits 64 bits.  Every other
literal is a double: its digits are collected into a 64-bit significand, integer digits that no
longer fit count as powers of ten, and fraction digits that no longer fit are dropped; the
significand and the power of ten are rounded to doubles, and their product or quotient is rounded
again.

Main definitions:

- `Json.readNumber?` reads a number literal.
- `Json.tokens?` splits a text into tokens.
- `Json.Machine.step?` consumes one token; `Json.ofText?` reads a whole text.
-/

namespace RelationalQuery

namespace Json

/-! ## Number literals -/

/-- The largest significand that is collected. -/
def maxSignificand : Nat := 0xFFFFFFFFFFFFFFFF

/-- The digits of a double literal: a significand, and the power of ten by which it is scaled. -/
structure Literal where
  significand : Nat
  scale : Int

/-- Collect integer digits; once a digit does not fit, it and the later ones only scale. -/
def collectInteger : List Char → Nat → Nat → (Nat × Nat) × List Char
  | [], significand, extra => ((significand, extra), [])
  | c :: rest, significand, extra =>
    match Text.digitValue? c with
    | none => ((significand, extra), c :: rest)
    | some d =>
      if extra = 0 ∧ significand * 10 + d ≤ maxSignificand then
        collectInteger rest (significand * 10 + d) 0
      else collectInteger rest significand (extra + 1)

/-- Collect fraction digits; once a digit does not fit, it and the later ones are dropped. -/
def collectFraction : List Char → Nat → Nat → Bool → (Nat × Nat) × List Char
  | [], significand, places, _ => ((significand, places), [])
  | c :: rest, significand, places, full =>
    match Text.digitValue? c with
    | none => ((significand, places), c :: rest)
    | some d =>
      if !full && decide (significand * 10 + d ≤ maxSignificand) then
        collectFraction rest (significand * 10 + d) (places + 1) false
      else collectFraction rest significand places true

/-- The digits of a natural number, read as a whole. -/
def readNatural? : List Char → Option Nat
  | [] => none
  | digits => digits.foldlM (fun n c => (Text.digitValue? c).map (n * 10 + ·)) 0

/-- The double nearest to a power of ten of at most `10 ^ 308`. -/
def powerOfTen (exponent : Nat) : Binary64 :=
  (Binary64.ofRatio? false (Nat.pow 10 exponent) 1).getD Binary64.zero

/-- Divide a double by a power of ten, in steps of at most `10 ^ 308`.  Three full steps leave zero
of every significand, so no more are taken. -/
def divideByTens (x : Binary64) (exponent : Nat) : Option Binary64 := do
  let steps := min 3 ((exponent - 1) / 308)
  let y ← (List.replicate steps (powerOfTen 308)).foldlM Binary64.div? x
  y.div? (powerOfTen (min 308 (exponent - 308 * steps)))

/-- The double of a literal; `none` when it is too large. -/
def Literal.toBinary64? (literal : Literal) (negative : Bool) : Option Binary64 := do
  let x ← Binary64.ofRatio? false literal.significand 1
  let magnitude ←
    if literal.scale < 0 then divideByTens x literal.scale.natAbs
    else if literal.scale.natAbs ≤ 308 then x.mul? (powerOfTen literal.scale.natAbs)
    else if x.isZero then some x
    else none
  return magnitude.withSign negative

/-- The exponent part of a literal: nothing, or a mark, a sign and digits. -/
def readExponent? : List Char → Option Int
  | [] => some 0
  | mark :: rest =>
    if mark = 'e' ∨ mark = 'E' then
      match rest with
      | '+' :: digits => (readNatural? digits).map Int.ofNat
      | '-' :: digits => (readNatural? digits).map fun n => -(n : Int)
      | digits => (readNatural? digits).map Int.ofNat
    else none

/-- The magnitude of a number literal: an integer without fraction and exponent, or a double. -/
def readMagnitude? (negative : Bool) (cs : List Char) : Option Number := do
  let whole := cs.takeWhile Text.isDigit
  if whole.isEmpty ∨ (whole.length ≠ 1 ∧ whole.head? = some '0') then none
  let ((significand, extra), rest) := collectInteger cs 0 0
  match rest with
  | [] =>
    let value : Int := if negative then -(significand : Int) else significand
    if extra = 0 ∧ ¬(negative ∧ significand = 0) then
      if let some n := Number.ofInt? value then return n
    return .real (← Literal.toBinary64? ⟨significand, extra⟩ negative)
  | '.' :: fraction =>
    let ((significand, places), rest) := collectFraction fraction significand 0 false
    if (fraction.head?.bind Text.digitValue?).isNone then none
    let exponent ← readExponent? rest
    return .real (← Literal.toBinary64? ⟨significand, extra - places + exponent⟩ negative)
  | rest =>
    let exponent ← readExponent? rest
    return .real (← Literal.toBinary64? ⟨significand, extra + exponent⟩ negative)

/-- A number literal. -/
def readNumber? : List Char → Option Number
  | '-' :: cs => readMagnitude? true cs
  | cs => readMagnitude? false cs

/-! ## Tokens -/

/-- A token of a JSON text. -/
inductive Token where
  | openArray
  | closeArray
  | openObject
  | closeObject
  | comma
  | colon
  | scalar (value : Json)

/-- The code unit of four hexadecimal digits. -/
def codeUnit? (a b c d : Char) : Option Nat := do
  return (((← Text.hexValue? a) * 16 + (← Text.hexValue? b)) * 16 + (← Text.hexValue? c)) * 16 +
    (← Text.hexValue? d)

/-- The character of an escape with one letter. -/
def shortEscape? (c : Char) : Option Char :=
  match c with
  | '"' => some '"'
  | '\\' => some '\\'
  | '/' => some '/'
  | 'b' => some '\x08'
  | 'f' => some '\x0c'
  | 'n' => some '\n'
  | 'r' => some '\r'
  | 't' => some '\t'
  | _ => none

/-- The rest of a string after its opening quote, up to and without the closing quote.  A pair of
escaped surrogates stands for one character. -/
def readString? : List Char → List Char → Option (String × List Char)
  | [], _ => none
  | '"' :: rest, done => some (String.ofList done.reverse, rest)
  | '\\' :: 'u' :: a :: b :: c :: d :: rest, done =>
    match codeUnit? a b c d with
    | none => none
    | some unit =>
      if 0xD800 ≤ unit ∧ unit < 0xDC00 then
        match rest with
        | '\\' :: 'u' :: e :: f :: g :: h :: rest =>
          match codeUnit? e f g h with
          | none => none
          | some low =>
            if 0xDC00 ≤ low ∧ low < 0xE000 then
              readString? rest
                (Char.ofNat (0x10000 + (unit - 0xD800) * 0x400 + (low - 0xDC00)) :: done)
            else none
        | _ => none
      else if 0xDC00 ≤ unit ∧ unit < 0xE000 then none
      else readString? rest (Char.ofNat unit :: done)
  | '\\' :: c :: rest, done =>
    match shortEscape? c with
    | none => none
    | some decoded => readString? rest (decoded :: done)
  | c :: rest, done => if c.toNat < 0x20 then none else readString? rest (c :: done)

/-- A string consumes at least its closing quote. -/
theorem readString?_length {cs done : List Char} {r : String × List Char}
    (h : readString? cs done = some r) : r.2.length < cs.length := by
  fun_induction readString? cs done with
  | case2 rest done =>
    cases h
    simp
  | _ => simp_all <;> omega

/-- The character may occur in a number or a word. -/
def isWordChar (c : Char) : Bool :=
  c.isAlphanum || c == '-' || c == '+' || c == '.'

/-- The scalar value that a word stands for. -/
def readWord? (word : List Char) : Option Json :=
  if word = ['n', 'u', 'l', 'l'] then some .null
  else if word = ['t', 'r', 'u', 'e'] then some (.bool true)
  else if word = ['f', 'a', 'l', 's', 'e'] then some (.bool false)
  else (readNumber? word).map .number

/-- The token of a structural character. -/
def structural? (c : Char) : Option Token :=
  match c with
  | '[' => some .openArray
  | ']' => some .closeArray
  | '\x7b' => some .openObject
  | '\x7d' => some .closeObject
  | ',' => some .comma
  | ':' => some .colon
  | _ => none

/-- The tokens of a text. -/
def tokens? (cs : List Char) : Option (List Token) :=
  match cs with
  | [] => some []
  | c :: rest =>
    if c = ' ' ∨ c = '\n' ∨ c = '\r' ∨ c = '\t' then tokens? rest
    else
      match structural? c with
      | some token => (tokens? rest).map (token :: ·)
      | none =>
        if c = '"' then
          match _read : readString? rest [] with
          | none => none
          | some (s, rest') => (tokens? rest').map (.scalar (.string s) :: ·)
        else if isWordChar c then
          match readWord? (c :: rest.takeWhile isWordChar) with
          | none => none
          | some value => (tokens? (rest.dropWhile isWordChar)).map (.scalar value :: ·)
        else none
termination_by cs.length
decreasing_by
  · simp
  · simp
  · have := readString?_length _read
    simp at this ⊢
    omega
  · have := (List.dropWhile_sublist (l := rest) isWordChar).length_le
    simp
    omega

/-! ## The machine -/

/-- A container that is still open: the items or members read so far, newest first. -/
inductive Frame where
  | items (done : List Json)
  | members (done : Members) (key : String)

/-- What the machine waits for. -/
inductive Stage where
  | value
  | valueOrClose
  | key (done : Members)
  | keyOrClose
  | colon (done : Members) (key : String)
  | separator
  | finished (value : Json)

/-- The state of the machine. -/
structure Machine where
  stage : Stage
  frames : List Frame

namespace Machine

/-- The machine before the first token. -/
def start : Machine := ⟨.value, []⟩

/-- Hand a complete value to the innermost open container. -/
def deliver (frames : List Frame) (value : Json) : Machine :=
  match frames with
  | [] => ⟨.finished value, []⟩
  | .items done :: outer => ⟨.separator, .items (value :: done) :: outer⟩
  | .members done key :: outer => ⟨.separator, .members ((key, value) :: done) key :: outer⟩

/-- The number of containers that may be open at once. -/
def maxOpen : Nat := 127

/-- Consume a token where a value is due. -/
def beginValue? (frames : List Frame) : Token → Option Machine
  | .openArray =>
    if frames.length < maxOpen then some ⟨.valueOrClose, .items [] :: frames⟩ else none
  | .openObject => if frames.length < maxOpen then some ⟨.keyOrClose, frames⟩ else none
  | .scalar value => some (deliver frames value)
  | _ => none

/-- Members in their order; of members with one name the last value stands in the first place. -/
def ordered (done : Members) : Members :=
  done.reverse.foldl (fun members entry => Members.insert members entry.1 entry.2) []

/-- Consume one token. -/
def step? (machine : Machine) (token : Token) : Option Machine :=
  match machine.stage, token, machine.frames with
  | .value, token, frames => beginValue? frames token
  | .valueOrClose, .closeArray, .items _ :: outer => some (deliver outer (.array []))
  | .valueOrClose, token, frames => beginValue? frames token
  | .keyOrClose, .closeObject, frames => some (deliver frames (.object []))
  | .keyOrClose, .scalar (.string key), frames => some ⟨.colon [] key, frames⟩
  | .key done, .scalar (.string key), frames => some ⟨.colon done key, frames⟩
  | .colon done key, .colon, frames => some ⟨.value, .members done key :: frames⟩
  | .separator, .comma, .items done :: outer => some ⟨.value, .items done :: outer⟩
  | .separator, .comma, .members done _ :: outer => some ⟨.key done, outer⟩
  | .separator, .closeArray, .items done :: outer =>
    some (deliver outer (.array done.reverse))
  | .separator, .closeObject, .members done _ :: outer =>
    some (deliver outer (.object (ordered done)))
  | _, _, _ => none

end Machine

/-- The value of a whole text, or `none` when the text is not a JSON value. -/
def ofText? (text : String) : Option Json := do
  let machine ← (← tokens? text.toList).foldlM Machine.step? Machine.start
  match machine.stage with
  | .finished value => some value
  | _ => none

end Json

end RelationalQuery
