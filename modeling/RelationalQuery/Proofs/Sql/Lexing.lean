import Mathlib.Data.List.Basic
import RelationalQuery.Sql.Token

/-!
# Reading back the text of tokens

A text falls into lexemes by the rules of SQL: names between double quotes, literals between single
quotes, in both of which a doubled quote stands for a quote, the two colons of a cast, placeholders
of the chosen style, and single characters.  A text that ends between quotes has no lexemes.

Tokens that are written one after the other are read back as the lexemes of each token if they are
spaced: what stands behind a name, a literal or a placeholder must not go on with it.  The texts of
names and literals are arbitrary.

Main definitions:

- `lex` reads the lexemes of a text.
- `Token.Spaced` says that tokens are spaced.
- `Token.text` is the text of tokens, and `Token.lexemes` are the lexemes of each of them.

Main results:

- `lex_quoted_name` and `lex_quoted_literal`: a quoted text is read back, whatever it holds.
- `Token.lex_text`: spaced tokens are read back one by one.
-/

namespace RelationalQuery

/-- The character that a placeholder starts with. -/
def PlaceholderStyle.mark : PlaceholderStyle → Char
  | .named => ':'
  | .dollar => '$'

namespace Sql

/-! ## Lexemes -/

/-- A piece of a text. -/
inductive Lexeme where
  /-- A name between double quotes. -/
  | name (text : String)
  /-- A literal between single quotes. -/
  | literal (text : String)
  /-- Two colons. -/
  | cast
  /-- A placeholder as it is written. -/
  | placeholder (text : String)
  /-- Any other character. -/
  | symbol (character : Char)
deriving DecidableEq

/-- The text up to the quote that closes it, and what is left behind that quote.  A doubled quote
stands for a quote. -/
def readQuoted (quote : Char) : List Char → Option (List Char × List Char)
  | [] => none
  | [c] => if c = quote then some ([], []) else none
  | c :: d :: rest =>
    if c = quote then
      if d = quote then (readQuoted quote rest).map fun read => (quote :: read.1, read.2)
      else some ([], d :: rest)
    else (readQuoted quote (d :: rest)).map fun read => (c :: read.1, read.2)

/-- The lexeme at the front of a text, and what is left behind it. -/
def firstLexeme (style : PlaceholderStyle) (c : Char) (rest : List Char) :
    Option (Lexeme × List Char) :=
  if c = '"' then (readQuoted '"' rest).map fun read => (.name (.ofList read.1), read.2)
  else if c = '\'' then (readQuoted '\'' rest).map fun read => (.literal (.ofList read.1), read.2)
  else if c = ':' ∧ rest.head? = some ':' then some (.cast, rest.tail)
  else if c = style.mark ∧ rest.head?.any Char.isDigit then
    some (.placeholder (.ofList (c :: rest.takeWhile Char.isDigit)), rest.dropWhile Char.isDigit)
  else some (.symbol c, rest)

/-- Reading a quoted text leaves less to read. -/
theorem readQuoted_length {quote : Char} {text inside left : List Char}
    (h : readQuoted quote text = some (inside, left)) : left.length < text.length := by
  fun_induction readQuoted quote text generalizing inside left with
  | case1 => simp at h
  | case2 => simp_all
  | case3 => simp at h
  | case4 rest ih =>
    obtain ⟨read, hread, heq⟩ := Option.map_eq_some_iff.1 h
    obtain ⟨-, rfl⟩ := Prod.mk.inj heq
    have := ih hread
    simp only [List.length_cons]
    omega
  | case5 => simp_all
  | case6 c d rest _ ih =>
    obtain ⟨read, hread, heq⟩ := Option.map_eq_some_iff.1 h
    obtain ⟨-, rfl⟩ := Prod.mk.inj heq
    have := ih hread
    simp only [List.length_cons] at this ⊢
    omega

/-- Reading a lexeme leaves no more than what is behind its first character. -/
theorem firstLexeme_length {style : PlaceholderStyle} {c : Char} {rest left : List Char}
    {lexeme : Lexeme} (h : firstLexeme style c rest = some (lexeme, left)) :
    left.length ≤ rest.length := by
  unfold firstLexeme at h
  split at h
  · obtain ⟨read, hread, heq⟩ := Option.map_eq_some_iff.1 h
    obtain ⟨-, rfl⟩ := Prod.mk.inj heq
    exact Nat.le_of_lt (readQuoted_length hread)
  split at h
  · obtain ⟨read, hread, heq⟩ := Option.map_eq_some_iff.1 h
    obtain ⟨-, rfl⟩ := Prod.mk.inj heq
    exact Nat.le_of_lt (readQuoted_length hread)
  split at h
  · obtain ⟨-, rfl⟩ := Prod.mk.inj (Option.some.inj h)
    simp
  split at h
  · obtain ⟨-, rfl⟩ := Prod.mk.inj (Option.some.inj h)
    exact (List.dropWhile_sublist _).length_le
  · obtain ⟨-, rfl⟩ := Prod.mk.inj (Option.some.inj h)
    exact Nat.le_refl _

/-- The lexemes of a text. -/
def lex (style : PlaceholderStyle) : List Char → Option (List Lexeme)
  | [] => some []
  | c :: rest =>
    match _ : firstLexeme style c rest with
    | none => none
    | some (lexeme, left) => (lex style left).map (lexeme :: ·)
termination_by text => text.length
decreasing_by
  have := firstLexeme_length ‹_›
  simp only [List.length_cons]
  omega

/-- There is nothing to read in an empty text. -/
@[simp]
theorem lex_nil (style : PlaceholderStyle) : lex style [] = some [] := by
  rw [lex]

/-- A text is read from its first lexeme on. -/
theorem lex_cons {style : PlaceholderStyle} {c : Char} {rest left : List Char} {lexeme : Lexeme}
    (h : firstLexeme style c rest = some (lexeme, left)) :
    lex style (c :: rest) = (lex style left).map (lexeme :: ·) := by
  rw [lex]
  split
  · rename_i hnone
    simp [h] at hnone
  · rename_i other behind hsome
    rw [h, Option.some.injEq, Prod.mk.injEq] at hsome
    rw [hsome.1, hsome.2]

/-! ## Quoted texts -/

/-- The characters of a text in which every quote is written twice. -/
def doubled (quote : Char) (text : List Char) : List Char :=
  text.flatMap fun c => if c = quote then [c, c] else [c]

/-- A text is read back up to its closing quote unless another quote follows it. -/
theorem readQuoted_doubled {quote : Char} (text : List Char) {rest : List Char}
    (ends : rest.head? ≠ some quote) :
    readQuoted quote (doubled quote text ++ quote :: rest) = some (text, rest) := by
  induction text with
  | nil =>
    cases rest with
    | nil => simp [doubled, readQuoted]
    | cons d rest =>
      have hd : d ≠ quote := by simpa using ends
      simp [doubled, readQuoted, hd]
  | cons c text ih =>
    by_cases hc : c = quote
    · have hsplit : doubled quote (c :: text) = c :: c :: doubled quote text := by
        simp [doubled, hc]
      rw [hsplit, hc, List.cons_append, List.cons_append, readQuoted, if_pos rfl, if_pos rfl, ih]
      rfl
    · have hsplit : doubled quote (c :: text) = c :: doubled quote text := by
        simp [doubled, hc]
      -- What follows the character is never empty: at least the closing quote is there.
      obtain ⟨d, behind, hbehind⟩ := List.exists_cons_of_ne_nil
        (show doubled quote text ++ quote :: rest ≠ [] by simp)
      rw [hsplit, List.cons_append, hbehind, readQuoted, if_neg hc, ← hbehind, ih]
      rfl

/-- A quoted text stands between quotes, with the quotes in it doubled. -/
theorem toList_quoted (quote : Char) (text : String) :
    (quoted quote text).toList = quote :: (doubled quote text.toList ++ [quote]) := by
  simp [quoted, doubled]

section

variable (style : PlaceholderStyle)

/-- A quoted name is read back, whatever characters it holds. -/
theorem lex_quoted_name (text : String) {rest : List Char} (ends : rest.head? ≠ some '"') :
    lex style ((quoted '"' text).toList ++ rest) = (lex style rest).map (.name text :: ·) := by
  rw [toList_quoted, List.cons_append, List.append_assoc, List.singleton_append]
  refine lex_cons ?_
  rw [firstLexeme, if_pos rfl, readQuoted_doubled _ ends]
  simp

/-- A quoted literal is read back, whatever characters it holds. -/
theorem lex_quoted_literal (text : String) {rest : List Char} (ends : rest.head? ≠ some '\'') :
    lex style ((quoted '\'' text).toList ++ rest) = (lex style rest).map (.literal text :: ·) := by
  rw [toList_quoted, List.cons_append, List.append_assoc, List.singleton_append]
  refine lex_cons ?_
  rw [firstLexeme, if_neg (by decide), if_pos rfl, readQuoted_doubled _ ends]
  simp

/-! ## Placeholders -/

/-- A placeholder is a mark with a number. -/
theorem toList_placeholder (index : Nat) :
    ∃ number, (style.placeholder index).toList = style.mark :: Nat.toDigits 10 number := by
  cases style with
  | named => exact ⟨index, by simp [PlaceholderStyle.placeholder, PlaceholderStyle.mark,
      Text.natural]⟩
  | dollar => exact ⟨index + 1, by simp [PlaceholderStyle.placeholder, PlaceholderStyle.mark,
      Text.natural]⟩

/-- A placeholder is read back unless a digit follows it. -/
theorem lex_placeholder (index : Nat) {rest : List Char}
    (ends : ∀ c ∈ rest.head?, c.isDigit = false) :
    lex style ((style.placeholder index).toList ++ rest) =
      (lex style rest).map (.placeholder (style.placeholder index) :: ·) := by
  obtain ⟨number, htext⟩ := toList_placeholder style index
  have hdigits : ∀ c ∈ Nat.toDigits 10 number, c.isDigit = true := fun c hc =>
    Nat.isDigit_of_mem_toDigits (by decide) (by decide) hc
  have hrest : rest.takeWhile Char.isDigit = [] ∧ rest.dropWhile Char.isDigit = rest := by
    cases rest with
    | nil => exact ⟨rfl, rfl⟩
    | cons c rest =>
      have hc : c.isDigit = false := ends c rfl
      exact ⟨List.takeWhile_cons_of_neg (by simp [hc]), List.dropWhile_cons_of_neg (by simp [hc])⟩
  obtain ⟨digit, digits, hnumber⟩ := List.exists_cons_of_ne_nil
    (show Nat.toDigits 10 number ≠ [] from Nat.toDigits_ne_nil)
  have hdigit : digit.isDigit = true := hdigits digit (by simp [hnumber])
  have hmark : style.mark ≠ '"' ∧ style.mark ≠ '\'' := by cases style <;> decide
  have hcolon : digit ≠ ':' := by
    rintro rfl
    exact absurd hdigit (by decide)
  rw [htext, List.cons_append]
  refine lex_cons ?_
  rw [firstLexeme, if_neg hmark.1, if_neg hmark.2, if_neg (by simp [hnumber, hcolon]),
    if_pos (by simp [hnumber, hdigit]), List.takeWhile_append_of_pos hdigits,
    List.dropWhile_append_of_pos hdigits, hrest.1, hrest.2, List.append_nil, ← htext]
  simp

/-! ## Texts without quotes and placeholders -/

/-- A text of keywords, operators and punctuation: it holds no quote and no dollar sign, and colons
only in pairs. -/
def isPlain : List Char → Bool
  | [] => true
  | ':' :: ':' :: rest => isPlain rest
  | c :: rest => c != '"' && c != '\'' && c != ':' && c != '$' && isPlain rest

/-- The lexemes of a plain text. -/
def symbols : List Char → List Lexeme
  | [] => []
  | ':' :: ':' :: rest => .cast :: symbols rest
  | c :: rest => .symbol c :: symbols rest

/-- Plain texts stay plain behind each other. -/
theorem isPlain_append {front back : List Char} (hfront : isPlain front = true)
    (hback : isPlain back = true) : isPlain (front ++ back) = true := by
  fun_induction isPlain front with
  | case1 => exact hback
  | case2 rest ih => exact ih hfront
  | case3 c rest hpair ih =>
    simp only [Bool.and_eq_true] at hfront
    have hc : c ≠ ':' := by simpa using hfront.1.1.2
    rw [List.cons_append, isPlain]
    · simp only [Bool.and_eq_true]
      exact ⟨hfront.1, ih hfront.2⟩
    · rintro _ rfl
      exact absurd rfl hc

/-- A plain text is read as its lexemes, whatever follows it. -/
theorem lex_plain {text : List Char} (plain : isPlain text = true) (rest : List Char) :
    lex style (text ++ rest) = (lex style rest).map (symbols text ++ ·) := by
  fun_induction isPlain text with
  | case1 => simp [symbols]
  | case2 text ih =>
    have hfirst : firstLexeme style ':' (':' :: (text ++ rest)) = some (.cast, text ++ rest) := rfl
    rw [List.cons_append, List.cons_append, lex_cons hfirst,
      ih plain, symbols, Option.map_map]
    rfl
  | case3 c text hpair ih =>
    simp only [Bool.and_eq_true, bne_iff_ne, ne_eq] at plain
    obtain ⟨⟨⟨⟨hname, hliteral⟩, hcolon⟩, hdollar⟩, plain⟩ := plain
    have hmark : c ≠ style.mark := by cases style <;> assumption
    have hfirst : firstLexeme style c (text ++ rest) = some (.symbol c, text ++ rest) := by
      rw [firstLexeme, if_neg hname, if_neg hliteral, if_neg (fun h => hcolon h.1),
        if_neg (fun h => hmark h.1)]
    rw [List.cons_append, lex_cons hfirst, ih plain, symbols, Option.map_map]
    · rfl
    · exact hpair

end

/-! ## Tokens -/

/-- JSON null as trusted text, the only fixed text that holds a literal. -/
def jsonNullText : String := "'null'::jsonb"

namespace Token

/-- The lexemes of a fixed text. -/
def fixedLexemes (text : String) : List Lexeme :=
  if text = jsonNullText then .literal "null" :: symbols "::jsonb".toList else symbols text.toList

/-- The lexemes of each token; the first parameter has the given index. -/
def lexemes (style : PlaceholderStyle) : Nat → List Token → List Lexeme
  | _, [] => []
  | index, .fixed text :: rest => fixedLexemes text ++ lexemes style index rest
  | index, .name identifier :: rest => .name identifier.text :: lexemes style index rest
  | index, .literal text :: rest => .literal text :: lexemes style index rest
  | index, .parameter _ :: rest =>
    .placeholder (style.placeholder index) :: lexemes style (index + 1) rest

/-- The text of tokens; the first parameter has the given index. -/
def text (style : PlaceholderStyle) : Nat → List Token → List Char
  | _, [] => []
  | index, .fixed text :: rest => text.toList ++ Token.text style index rest
  | index, .name identifier :: rest => identifier.quoted.toList ++ Token.text style index rest
  | index, .literal text :: rest => (quoted '\'' text).toList ++ Token.text style index rest
  | index, .parameter _ :: rest =>
    (style.placeholder index).toList ++ Token.text style (index + 1) rest

/-- A fixed text that is read on its own. -/
def IsReadable (text : String) : Prop := isPlain text.toList = true ∨ text = jsonNullText

/-- A fixed text that can stand directly behind a name, a literal or a placeholder. -/
def delimits (text : String) : Bool :=
  match text.toList with
  | [] => false
  | c :: _ => c != '"' && c != '\'' && !c.isDigit

/-- Tokens that can stand directly behind a name, a literal or a placeholder. -/
def Delimited : List Token → Prop
  | [] => True
  | .fixed text :: _ => delimits text = true
  | _ => False

/-- Fixed texts can be read on their own, and every other token is delimited by what follows it. -/
def Spaced : List Token → Prop
  | [] => True
  | .fixed text :: rest => IsReadable text ∧ Spaced rest
  | _ :: rest => Delimited rest ∧ Spaced rest

/-- What can stand behind a token does not go on with it. -/
theorem ends_of_delimited {tokens : List Token} (h : Delimited tokens) (style : PlaceholderStyle)
    (index : Nat) : ∀ c ∈ (Token.text style index tokens).head?,
      c ≠ '"' ∧ c ≠ '\'' ∧ c.isDigit = false := by
  intro c hc
  match tokens, h with
  | [], _ => simp [Token.text] at hc
  | .fixed text :: rest, h =>
    rw [Delimited, delimits] at h
    split at h
    · simp at h
    · rename_i first others htext
      rw [Token.text, htext, List.cons_append, List.head?_cons, Option.mem_some_iff] at hc
      subst hc
      simpa [and_assoc] using h

variable {style : PlaceholderStyle}

/-- A fixed text is read as its lexemes, whatever comes behind it. -/
theorem lex_fixed {text : String} (readable : IsReadable text) (rest : List Char) :
    lex style (text.toList ++ rest) = (lex style rest).map (fixedLexemes text ++ ·) := by
  unfold fixedLexemes
  rcases readable with hplain | rfl
  · have hnull : text ≠ jsonNullText := by
      rintro rfl
      exact absurd hplain (by decide)
    rw [if_neg hnull, lex_plain style hplain]
  · have hsplit : jsonNullText.toList ++ rest =
        (quoted '\'' "null").toList ++ ("::jsonb".toList ++ rest) := rfl
    rw [if_pos rfl, hsplit, lex_quoted_literal style _ (by simp), lex_plain style (by decide),
      Option.map_map]
    rfl

/-- Spaced tokens are read back one by one: their names and literals cannot change how the text
falls into lexemes. -/
theorem lex_text {tokens : List Token} (spaced : Spaced tokens) (index : Nat) :
    lex style (Token.text style index tokens) = some (lexemes style index tokens) := by
  induction tokens generalizing index with
  | nil => exact lex_nil style
  | cons token rest ih =>
    cases token with
    | fixed text =>
      rw [Token.text, lex_fixed spaced.1, ih spaced.2]
      rfl
    | name identifier =>
      have hends : (Token.text style index rest).head? ≠ some '"' := fun h =>
        (ends_of_delimited spaced.1 style index _ h).1 rfl
      rw [Token.text, Identifier.quoted, lex_quoted_name style _ hends, ih spaced.2]
      rfl
    | literal text =>
      have hends : (Token.text style index rest).head? ≠ some '\'' := fun h =>
        (ends_of_delimited spaced.1 style index _ h).2.1 rfl
      rw [Token.text, lex_quoted_literal style _ hends, ih spaced.2]
      rfl
    | parameter value =>
      have hends : ∀ c ∈ (Token.text style (index + 1) rest).head?, c.isDigit = false :=
        fun c hc => (ends_of_delimited spaced.1 style (index + 1) c hc).2.2
      rw [Token.text, lex_placeholder style index hends, ih spaced.2]
      rfl

end Token

/-- Writing tokens appends their text. -/
theorem RenderContext.toList_sql_writeAll (context : RenderContext) (tokens : List Token) :
    (context.writeAll tokens).sql.toList =
      context.sql.toList ++ Token.text context.style context.parameters.length tokens := by
  induction tokens generalizing context with
  | nil => simp [writeAll, Token.text]
  | cons token rest ih =>
    have hstep : context.writeAll (token :: rest) = (context.write token).writeAll rest := rfl
    rw [hstep, ih]
    cases token with
    | fixed text | name identifier | literal text => simp [write, append, Token.text]
    | parameter value => simp [write, bind, append, Token.text]

/-- The text of compiled tokens is what they write. -/
theorem toList_sql_ofTokens (style : PlaceholderStyle) (tokens : List Token) :
    (CompiledQuery.ofTokens style tokens).sql.toList = Token.text style 0 tokens := by
  simp [CompiledQuery.ofTokens, RenderContext.finish, RenderContext.toList_sql_writeAll,
    RenderContext.start]

end Sql

end RelationalQuery
