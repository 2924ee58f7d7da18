import RelationalQuery.Proofs.Sql.TokenStructure

/-!
# The character zero in rendered texts

A name that holds the character zero is refused, but a literal is quoted whatever it holds.  So
where no trusted text and no type holds this character, a rendered text holds it exactly where a
literal does.

Main results:

- `Token.nul_mem_text`: which tokens bring the character zero into a text.
- `Spells.nul_notMem_name`: no name that is written holds it.
- `Spells.nul_mem_text_iff`: a text holds it exactly if a literal that is written does.
-/

namespace RelationalQuery.Sql

/-! ## Quotes and placeholders -/

/-- Quotes do not hide the character zero, and do not add it. -/
theorem nul_mem_quoted {quote : Char} (h : nul ≠ quote) (text : String) :
    nul ∈ (quoted quote text).toList ↔ nul ∈ text.toList := by
  have hdoubled : nul ∈ doubled quote text.toList ↔ nul ∈ text.toList := by
    rw [doubled, List.mem_flatMap]
    constructor
    · rintro ⟨c, hc, hmem⟩
      split at hmem
      · rename_i hquote
        simp [hquote, h] at hmem
      · rwa [List.mem_singleton.1 hmem]
    · exact fun hmem => ⟨nul, hmem, by simp [h]⟩
  simp [toList_quoted, hdoubled, h]

/-- No placeholder holds the character zero. -/
theorem nul_notMem_placeholder (style : PlaceholderStyle) (index : Nat) :
    nul ∉ (style.placeholder index).toList := by
  obtain ⟨number, hnumber⟩ := toList_placeholder style index
  have hmark : nul ≠ style.mark := by cases style <;> decide
  rw [hnumber, List.mem_cons, not_or]
  refine ⟨hmark, fun hmem => ?_⟩
  exact absurd (Nat.isDigit_of_mem_toDigits (by decide) (by decide) hmem) (by decide)

/-! ## Tokens -/

namespace Token

/-- A token brings the character zero into the text. -/
def BringsNul : Token → Prop
  | .fixed text | .literal text => nul ∈ text.toList
  | .name _ | .parameter _ => False

/-- The text of tokens holds the character zero exactly if one of them brings it. -/
theorem nul_mem_text (style : PlaceholderStyle) (index : Nat) (tokens : List Token) :
    nul ∈ Token.text style index tokens ↔ ∃ token ∈ tokens, token.BringsNul := by
  induction tokens generalizing index with
  | nil => simp [Token.text]
  | cons token rest ih =>
    rw [List.exists_mem_cons_iff]
    cases token with
    | fixed text => simp [Token.text, BringsNul, ih]
    | literal text =>
      have hquoted := nul_mem_quoted (show nul ≠ '\'' by decide) text
      simp [Token.text, BringsNul, ih, hquoted]
    | name identifier =>
      have hquoted := nul_mem_quoted (show nul ≠ '"' by decide) identifier.text
      have hfree : nul ∉ identifier.text.toList := by simpa using identifier.nulFree
      simp [Token.text, BringsNul, ih, Identifier.quoted, hquoted, hfree]
    | parameter value => simp [Token.text, BringsNul, ih, nul_notMem_placeholder]

/-- A literal is a quoted lexeme exactly if there is a token for it. -/
theorem literal_mem_quotedLexemes {text : String} (other : text ≠ "null") (tokens : List Token) :
    Lexeme.literal text ∈ quotedLexemes tokens ↔ Token.literal text ∈ tokens := by
  induction tokens with
  | nil => simp [quotedLexemes]
  | cons token rest ih =>
    cases token with
    | fixed written =>
      rw [quotedLexemes]
      split <;> simp [ih, other]
    | name identifier | literal written | parameter value => simp [quotedLexemes, ih]

/-- No name holds the character zero. -/
theorem nul_notMem_of_name_mem {text : String} {tokens : List Token}
    (h : Lexeme.name text ∈ quotedLexemes tokens) : nul ∉ text.toList := by
  induction tokens with
  | nil => simp [quotedLexemes] at h
  | cons token rest ih =>
    cases token with
    | fixed written =>
      rw [quotedLexemes] at h
      split at h <;> exact ih (by simpa using h)
    | name identifier =>
      rw [quotedLexemes, List.mem_cons, Lexeme.name.injEq] at h
      rcases h with rfl | hrest
      · simpa using identifier.nulFree
      · exact ih hrest
    | literal written | parameter value => exact ih (by simpa [quotedLexemes] using h)

end Token

/-! ## Pieces -/

namespace Spells

variable {tokens : List Token} {pieces : List Piece} {text : String}

/-- A literal is written exactly if it is a piece. -/
theorem literal_mem_iff (h : Spells tokens pieces) (other : text ≠ "null") :
    Token.literal text ∈ tokens ↔ .literal text ∈ pieces := by
  rw [← Token.literal_mem_quotedLexemes other, h.quoted, List.mem_flatMap]
  constructor
  · rintro ⟨piece, hpiece, hmem⟩
    cases piece with
    | literal written =>
      rw [Piece.quoted, List.mem_singleton, Lexeme.literal.injEq] at hmem
      rwa [hmem]
    | raw written =>
      rw [Piece.quoted] at hmem
      split at hmem <;> simp [other] at hmem
    | name written | type written => simp [Piece.quoted] at hmem
  · exact fun hmem => ⟨_, hmem, List.mem_singleton_self _⟩

/-- No name that is written holds the character zero. -/
theorem nul_notMem_name (h : Spells tokens pieces) (mem : .name text ∈ pieces) :
    nul ∉ text.toList := by
  have hname : Lexeme.name text ∈ Token.quotedLexemes tokens := by
    rw [h.quoted]
    exact List.mem_flatMap.2 ⟨_, mem, List.mem_singleton_self _⟩
  exact Token.nul_notMem_of_name_mem hname

/-- A text holds the character zero exactly if a literal that is written does. -/
theorem nul_mem_text_iff (h : Spells tokens pieces)
    (fixed : ∀ piece ∈ pieces, piece.IsFixedWithoutNul) (style : PlaceholderStyle) (index : Nat) :
    nul ∈ Token.text style index tokens ↔
      ∃ text, .literal text ∈ pieces ∧ nul ∈ text.toList := by
  have hother : ∀ {text : String}, nul ∈ text.toList → text ≠ "null" := by
    rintro _ hnul rfl
    exact absurd hnul (by decide)
  rw [Token.nul_mem_text]
  constructor
  · rintro ⟨token, htoken, hnul⟩
    cases token with
    | fixed text => exact absurd hnul (h.fixedWithoutNul fixed text htoken)
    | literal text => exact ⟨text, (h.literal_mem_iff (hother hnul)).1 htoken, hnul⟩
    | name identifier | parameter value => exact hnul.elim
  · rintro ⟨text, htext, hnul⟩
    exact ⟨.literal text, (h.literal_mem_iff (hother hnul)).2 htext, hnul⟩

end Spells

end RelationalQuery.Sql
