import RelationalQuery.Json.Basic

/-!
# Events of a compilation

Main definitions:

- `Event` is an event with its level, target and fields.
- `lastBoundary` searches backwards for a place between two characters, and `slice?` slices a text
  at such a place.
- `cutText` cuts a text that is too long, at a whole character.
-/

namespace RelationalQuery

/-! ## Cutting text -/

/-- The last place between two characters among the first bytes of a text; the start of a text is
one. -/
def lastBoundary (text : String) : Nat → Nat
  | 0 => 0
  | byte + 1 =>
    if String.Pos.Raw.isValid text ⟨byte + 1⟩ then byte + 1 else lastBoundary text byte

theorem isValid_lastBoundary (text : String) (byte : Nat) :
    String.Pos.Raw.IsValid text ⟨lastBoundary text byte⟩ := by
  induction byte with
  | zero => exact String.Pos.Raw.isValid_zero
  | succ byte ih =>
    rw [lastBoundary]
    split
    · rename_i h
      exact String.Pos.Raw.isValid_eq_true_iff.1 h
    · exact ih

/-- The text of the first bytes of a text; there is none if they end inside of a character or
beyond the text. -/
def slice? (text : String) (size : Nat) : Option String :=
  if boundary : String.Pos.Raw.IsValid text ⟨size⟩ then
    some (text.sliceTo ⟨⟨size⟩, boundary⟩).copy
  else none

/-- The slice of a text at its last boundary within so many bytes. -/
def frontWithin? (text : String) (limit : Nat) : Option String :=
  slice? text (lastBoundary text (min limit text.utf8ByteSize))

theorem isSome_frontWithin? (text : String) (limit : Nat) : (frontWithin? text limit).isSome := by
  rw [frontWithin?, slice?, dif_pos (isValid_lastBoundary ..)]
  rfl

/-- A text of at most so many bytes as it is; of a longer one the slice at the last boundary within
them and three dots. -/
def cutText (limit? : Option UInt64) (text : String) : String :=
  match limit? with
  | none => text
  | some limit =>
    if text.utf8ByteSize ≤ limit.toNat then text
    else (frontWithin? text limit.toNat).get (isSome_frontWithin? text limit.toNat) ++ "..."

/-! ## Events -/

/-- An event of a compilation. -/
inductive Event where
  /-- An update assigns nothing to the rows of its own table. -/
  | emptyUpdate (table : String)
  /-- A query has been compiled. -/
  | compiled (table operation : String) (statements parameters : Nat)
  /-- The text of a compiled query, which may be cut. -/
  | text (sql : String)
deriving DecidableEq

namespace Event

/-- The level of an event. -/
def level : Event → String
  | .emptyUpdate _ => "WARN"
  | .compiled .. => "DEBUG"
  | .text _ => "TRACE"

/-- The target of an event. -/
def target : Event → String
  | .text _ => "relsql.sql"
  | _ => "relsql.compile"

/-- A count as a value. -/
def count (n : Nat) : Json := Json.ofUInt64 (UInt64.ofNat n)

/-- The fields of an event. -/
def fields : Event → Members
  | .emptyUpdate table =>
    [("message", .string "update has no own columns, compiling a SELECT"), ("table", .string table)]
  | .compiled table operation statements parameters =>
    [("message", .string "compiled query"), ("table", .string table),
      ("operation", .string operation), ("statements", count statements),
      ("param_count", count parameters)]
  | .text sql => [("sql", .string sql)]

end Event

end RelationalQuery
