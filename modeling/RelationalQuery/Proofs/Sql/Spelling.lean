import RelationalQuery.Proofs.Computation
import RelationalQuery.Proofs.Sql.Lexing
import RelationalQuery.Sql.Rendering

/-!
# What tokens spell

Besides keywords, punctuation and placeholders, tokens write names, literals, trusted texts and the
types of casts.  Tokens are put together with separators that delimit them, so if the trusted texts
and the types are harmless, spaced tokens stay spaced; and no separator holds the character zero, so
fixed texts hold it only where a trusted text or a type does.

Main definitions:

- `Piece` is a name, a literal, a trusted text or a type; `Piece.IsTrusted` says which trusted texts
  and types are harmless, and `Piece.IsFixedWithoutNul` which do not hold the character zero.
- `Separates` are the fixed texts that delimit what stands in front of them.
- `Spells` relates tokens to the pieces that they write, and `SpellsAll` the tokens of several
  parts.

Main results:

- `Spells.append`, `Spells.between` and `Spells.enclosed`: tokens that are put together spell what
  they spell alone.
- `SpellsAll.separated`: separated parts spell what each of them spells.
-/

namespace RelationalQuery.Sql

/-! ## Pieces -/

/-- What a tree writes besides keywords, punctuation and placeholders. -/
inductive Piece where
  | name (text : String)
  | literal (text : String)
  /-- Trusted text. -/
  | raw (text : String)
  /-- The type of a cast. -/
  | type (word : String)
deriving DecidableEq

/-- The trusted texts that compiled queries hold. -/
def trustedTexts : List String := ["*", "1", "COUNT(1)", jsonNullText]

/-- A text without quotes, colons and dollar signs. -/
def IsWord (text : String) : Prop :=
  ∀ c ∈ text.toList, c ≠ '"' ∧ c ≠ '\'' ∧ c ≠ ':' ∧ c ≠ '$'

namespace Piece

/-- Trusted texts are among those of compiled queries, and types are words.  Names and literals are
arbitrary. -/
def IsTrusted : Piece → Prop
  | .raw text => text ∈ trustedTexts
  | .type word => IsWord word
  | _ => True

instance : DecidablePred IsTrusted
  | .raw text => inferInstanceAs (Decidable (text ∈ trustedTexts))
  | .type word =>
    inferInstanceAs (Decidable (∀ c ∈ word.toList, c ≠ '"' ∧ c ≠ '\'' ∧ c ≠ ':' ∧ c ≠ '$'))
  | .name _ => .isTrue trivial
  | .literal _ => .isTrue trivial

/-- A trusted text or a type does not hold the character zero.  Names and literals are arbitrary. -/
def IsFixedWithoutNul : Piece → Prop
  | .raw text | .type text => nul ∉ text.toList
  | .name _ | .literal _ => True

/-- The quoted lexemes that a piece is read back as. -/
def quoted : Piece → List Lexeme
  | .name text => [.name text]
  | .literal text => [.literal text]
  | .raw text => if text = jsonNullText then [.literal "null"] else []
  | .type _ => []

end Piece

/-- The quoted lexemes of tokens. -/
def Token.quotedLexemes : List Token → List Lexeme
  | [] => []
  | .fixed text :: rest =>
    (if text = jsonNullText then [.literal "null"] else []) ++ Token.quotedLexemes rest
  | .name identifier :: rest => .name identifier.text :: Token.quotedLexemes rest
  | .literal text :: rest => .literal text :: Token.quotedLexemes rest
  | .parameter _ :: rest => Token.quotedLexemes rest

/-- No fixed text of some tokens holds the character zero. -/
def Token.FixedWithoutNul (tokens : List Token) : Prop :=
  ∀ text, Token.fixed text ∈ tokens → nul ∉ text.toList

/-- Tokens write the given pieces.  If these are trusted, the tokens are spaced, and fixed texts
hold the character zero only where a piece does. -/
structure Spells (tokens : List Token) (pieces : List Piece) : Prop where
  quoted : Token.quotedLexemes tokens = pieces.flatMap Piece.quoted
  spaced : (∀ piece ∈ pieces, piece.IsTrusted) → Token.Spaced tokens
  fixedWithoutNul : (∀ piece ∈ pieces, piece.IsFixedWithoutNul) → Token.FixedWithoutNul tokens

/-- Several parts write the given pieces together.  If these are trusted, each part is spaced, and
fixed texts hold the character zero only where a piece does. -/
structure SpellsAll (parts : List (List Token)) (pieces : List Piece) : Prop where
  quoted : Token.quotedLexemes parts.flatten = pieces.flatMap Piece.quoted
  spaced : (∀ piece ∈ pieces, piece.IsTrusted) → ∀ part ∈ parts, Token.Spaced part
  fixedWithoutNul : (∀ piece ∈ pieces, piece.IsFixedWithoutNul) →
    ∀ part ∈ parts, Token.FixedWithoutNul part

/-! ## Fixed texts -/

/-- A text of keywords, operators and punctuation, without the character zero. -/
def isFixed (text : String) : Bool := isPlain text.toList && !text.toList.contains nul

/-- A fixed text is read as it stands. -/
theorem isPlain_of_isFixed {text : String} (h : isFixed text = true) :
    isPlain text.toList = true :=
  (Bool.and_eq_true_iff.1 h).1

/-- A fixed text does not hold the character zero. -/
theorem nul_notMem_of_isFixed {text : String} (h : isFixed text = true) : nul ∉ text.toList := by
  have hfree := (Bool.and_eq_true_iff.1 h).2
  simpa using hfree

/-- A word is read as it stands. -/
theorem isPlain_of_isWord {text : String} (h : IsWord text) : isPlain text.toList = true := by
  unfold IsWord at h
  generalize text.toList = characters at h ⊢
  induction characters with
  | nil => rfl
  | cons c rest ih =>
    have hplain := h c List.mem_cons_self
    rw [isPlain]
    · simp [hplain, ih fun d hd => h d (List.mem_cons_of_mem _ hd)]
    · rintro _ rfl
      exact absurd rfl hplain.2.2.1

/-- Only the text of JSON null holds a literal, and it starts with a quote. -/
theorem ne_jsonNullText {text : String} (h : text.toList.head? ≠ some '\'') :
    text ≠ jsonNullText := by
  rintro rfl
  exact h (by decide)

/-- The text of null in JSON is not fixed, as it holds quotes. -/
theorem ne_jsonNullText_of_isFixed {text : String} (h : isFixed text = true) :
    text ≠ jsonNullText := by
  rintro rfl
  exact absurd h (by decide)

/-- A fixed text that delimits what stands in front of it. -/
structure Separates (text : String) : Prop where
  plain : isFixed text = true
  ends : Token.delimits text = true

instance (text : String) : Decidable (Separates text) :=
  decidable_of_iff (_ ∧ _) ⟨fun h => ⟨h.1, h.2⟩, fun h => ⟨h.1, h.2⟩⟩

namespace Token

/-- The start of a text decides what it delimits. -/
theorem delimits_append {lead : String} (h : delimits lead = true) (word : String) :
    delimits (lead ++ word) = true := by
  unfold delimits at h ⊢
  split at h
  · simp at h
  · rename_i hlead
    simpa [hlead] using h

/-- No text but that of null in JSON holds quoted lexemes. -/
theorem quotedLexemes_fixed {text : String} (h : text ≠ jsonNullText) (tokens : List Token) :
    quotedLexemes (.fixed text :: tokens) = quotedLexemes tokens := by
  rw [quotedLexemes, if_neg h, List.nil_append]

/-- Tokens hold their quoted lexemes in their order. -/
@[simp]
theorem quotedLexemes_append (left right : List Token) :
    quotedLexemes (left ++ right) = quotedLexemes left ++ quotedLexemes right := by
  induction left with
  | nil => rfl
  | cons token rest ih => cases token <;> simp [quotedLexemes, ih]

/-- Delimited tokens can be joined. -/
theorem Delimited.append {left right : List Token} (hleft : Delimited left)
    (hright : Delimited right) : Delimited (left ++ right) := by
  match left, hleft with
  | [], _ => exact hright
  | .fixed text :: rest, hleft => exact hleft

/-- Spaced tokens stay spaced behind each other if the first ones are delimited by the others. -/
theorem Spaced.append {left right : List Token} (hleft : Spaced left) (hright : Spaced right)
    (ends : Delimited right) : Spaced (left ++ right) := by
  induction left with
  | nil => exact hright
  | cons token rest ih =>
    cases token with
    | fixed text => exact ⟨hleft.1, ih hleft.2⟩
    | name identifier | literal text | parameter value =>
      exact ⟨hleft.1.append ends, ih hleft.2⟩

end Token

/-! ## Putting tokens together -/

namespace Token

theorem fixedWithoutNul_nil : FixedWithoutNul [] := fun _ h => absurd h List.not_mem_nil

/-- A fixed text without the character zero can be put in front. -/
theorem FixedWithoutNul.fixed {tokens : List Token} (h : FixedWithoutNul tokens) {text : String}
    (free : nul ∉ text.toList) : FixedWithoutNul (.fixed text :: tokens) := by
  intro other hother
  rcases List.mem_cons.1 hother with heq | hrest
  · rwa [Token.fixed.inj heq]
  · exact h other hrest

/-- Tokens without the character zero can be joined. -/
theorem FixedWithoutNul.append {left right : List Token} (hleft : FixedWithoutNul left)
    (hright : FixedWithoutNul right) : FixedWithoutNul (left ++ right) := by
  intro text htext
  exact (List.mem_append.1 htext).elim (hleft text) (hright text)

end Token

section

variable {tokens front back : List Token} {parts others : List (List Token)}
  {pieces left right : List Piece}

namespace Spells

theorem nil : Spells [] [] :=
  ⟨rfl, fun _ => trivial, fun _ => Token.fixedWithoutNul_nil⟩

/-- A fixed text in front spells nothing. -/
theorem fixed (h : Spells tokens pieces) (text : String) (plain : isFixed text = true) :
    Spells (.fixed text :: tokens) pieces := by
  refine ⟨?_, fun trusted => ⟨.inl (isPlain_of_isFixed plain), h.spaced trusted⟩, fun free =>
    (h.fixedWithoutNul free).fixed (nul_notMem_of_isFixed plain)⟩
  rw [Token.quotedLexemes_fixed (ne_jsonNullText_of_isFixed plain), h.quoted]

/-- A keyword writes no piece. -/
theorem keyword (text : String) (plain : isFixed text = true) : Spells [.fixed text] [] :=
  nil.fixed text plain

/-- Tokens that delimit those in front of them spell what both spell. -/
theorem append (hfront : Spells front left) (hback : Spells back right)
    (ends : Token.Delimited back) : Spells (front ++ back) (left ++ right) := by
  refine ⟨?_, fun trusted => ?_, fun free => ?_⟩
  · rw [Token.quotedLexemes_append, hfront.quoted, hback.quoted, List.flatMap_append]
  · rw [List.forall_mem_append] at trusted
    exact (hfront.spaced trusted.1).append (hback.spaced trusted.2) ends
  · rw [List.forall_mem_append] at free
    exact (hfront.fixedWithoutNul free.1).append (hback.fixedWithoutNul free.2)

/-- Tokens with a separator between them spell what both spell. -/
theorem between (hfront : Spells front left) (text : String) (separator : Separates text)
    (hback : Spells back right) : Spells (front ++ .fixed text :: back) (left ++ right) :=
  hfront.append (hback.fixed text separator.plain) separator.ends

/-- A separator behind tokens spells nothing. -/
theorem closed (h : Spells tokens pieces) (text : String) (separator : Separates text) :
    Spells (tokens ++ [.fixed text]) pieces := by
  simpa using h.between text separator nil

/-- Tokens between two fixed texts spell what they spell alone. -/
theorem enclosed (h : Spells tokens pieces) (lead trail : String) (plain : isFixed lead = true)
    (separator : Separates trail) : Spells (.fixed lead :: tokens ++ [.fixed trail]) pieces :=
  (h.fixed lead plain).closed trail separator

/-- A name is a piece. -/
theorem name (identifier : Identifier) : Spells [.name identifier] [.name identifier.text] :=
  ⟨rfl, fun _ => ⟨trivial, trivial⟩, fun _ => by simp [Token.FixedWithoutNul]⟩

/-- A literal is a piece. -/
theorem literal (text : String) : Spells [.literal text] [.literal text] :=
  ⟨rfl, fun _ => ⟨trivial, trivial⟩, fun _ => by simp [Token.FixedWithoutNul]⟩

/-- A placeholder writes no piece. -/
theorem parameter (value : Parameter) : Spells [.parameter value] [] :=
  ⟨rfl, fun _ => ⟨trivial, trivial⟩, fun _ => by simp [Token.FixedWithoutNul]⟩

/-- A text that is not fixed by the renderer is a trusted piece. -/
theorem raw (text : String) : Spells [.fixed text] [.raw text] := by
  refine ⟨by simp [Token.quotedLexemes, Piece.quoted], fun trusted => ⟨?_, trivial⟩, fun free =>
    Token.fixedWithoutNul_nil.fixed (free _ (List.mem_singleton_self _))⟩
  have htrusted : Piece.IsTrusted (.raw text) := trusted _ (List.mem_singleton_self _)
  rcases List.mem_cons.1 htrusted with rfl | h
  · exact .inl (by decide)
  rcases List.mem_cons.1 h with rfl | h
  · exact .inl (by decide)
  rcases List.mem_cons.1 h with rfl | h
  · exact .inl (by decide)
  · exact .inr (List.mem_singleton.1 h)

/-- The type of a cast stands between plain texts in front of other tokens. -/
theorem type (h : Spells tokens pieces) (lead word trail : String)
    (hlead : isFixed lead = true) (nonempty : lead.toList ≠ [])
    (htrail : isFixed trail = true) :
    Spells (.fixed (lead ++ word ++ trail) :: tokens) (.type word :: pieces) := by
  refine ⟨?_, fun trusted => ?_, fun free => ?_⟩
  · -- The lead is plain, so the whole text does not start with a quote.
    have hhead : (lead ++ word ++ trail).toList.head? ≠ some '\'' := by
      obtain ⟨c, others, hlist⟩ := List.exists_cons_of_ne_nil nonempty
      have hc : c ≠ '\'' := by
        rintro rfl
        have hplain := isPlain_of_isFixed hlead
        rw [hlist] at hplain
        simp [isPlain] at hplain
      simp [hlist, hc]
    rw [Token.quotedLexemes_fixed (ne_jsonNullText hhead), h.quoted]
    rfl
  · rw [List.forall_mem_cons] at trusted
    refine ⟨.inl ?_, h.spaced trusted.2⟩
    have hword : IsWord word := trusted.1
    rw [String.toList_append, String.toList_append]
    exact isPlain_append (isPlain_append (isPlain_of_isFixed hlead) (isPlain_of_isWord hword))
      (isPlain_of_isFixed htrail)
  · rw [List.forall_mem_cons] at free
    refine (h.fixedWithoutNul free.2).fixed ?_
    simp only [String.toList_append, List.mem_append, not_or]
    exact ⟨⟨nul_notMem_of_isFixed hlead, free.1⟩, nul_notMem_of_isFixed htrail⟩

end Spells

namespace SpellsAll

theorem nil : SpellsAll [] [] :=
  ⟨rfl, fun _ => List.forall_mem_nil _, fun _ => List.forall_mem_nil _⟩

/-- A part in front writes its pieces in front. -/
theorem cons (h : Spells tokens left) (hrest : SpellsAll parts right) :
    SpellsAll (tokens :: parts) (left ++ right) := by
  refine ⟨?_, fun trusted => ?_, fun free => ?_⟩
  · rw [List.flatten_cons, Token.quotedLexemes_append, h.quoted, hrest.quoted, List.flatMap_append]
  · rw [List.forall_mem_append] at trusted
    rw [List.forall_mem_cons]
    exact ⟨h.spaced trusted.1, hrest.spaced trusted.2⟩
  · rw [List.forall_mem_append] at free
    rw [List.forall_mem_cons]
    exact ⟨h.fixedWithoutNul free.1, hrest.fixedWithoutNul free.2⟩

/-- Parts write their pieces one after the other. -/
theorem append (h : SpellsAll parts left) (hothers : SpellsAll others right) :
    SpellsAll (parts ++ others) (left ++ right) := by
  refine ⟨?_, fun trusted => ?_, fun free => ?_⟩
  · rw [List.flatten_append, Token.quotedLexemes_append, h.quoted, hothers.quoted,
      List.flatMap_append]
  · rw [List.forall_mem_append] at trusted ⊢
    exact ⟨h.spaced trusted.1, hothers.spaced trusted.2⟩
  · rw [List.forall_mem_append] at free ⊢
    exact ⟨h.fixedWithoutNul free.1, hothers.fixedWithoutNul free.2⟩

/-- A single part writes its pieces. -/
theorem singleton (h : Spells tokens pieces) : SpellsAll [tokens] pieces := by
  simpa using cons h nil

/-- Parts that are checked one by one spell what each of them spells. -/
theorem of_mapM {α : Type} {f : α → Rendered} {pieces : α → List Piece} {items : List α}
    (h : items.mapM f = .ok parts)
    (each : ∀ {item tokens}, f item = .ok tokens → Spells tokens (pieces item)) :
    SpellsAll parts (items.flatMap pieces) := by
  induction items generalizing parts with
  | nil =>
    rw [List.mapM_nil, pure_eq_ok_iff] at h
    rw [← h]
    exact nil
  | cons item rest ih =>
    rw [List.mapM_cons] at h
    simp only [bind_eq_ok_iff, pure_eq_ok_iff] at h
    obtain ⟨tokens, hitem, others, hrest, rfl⟩ := h
    exact cons (each hitem) (ih hrest)

/-- A separator between parts delimits them. -/
theorem separated (h : SpellsAll parts pieces) (text : String) (separator : Separates text) :
    Spells (Token.separated text parts) pieces := by
  refine ⟨?_, fun trusted => ?_, fun free => ?_⟩
  · -- The pieces do not tell where a part ends, so the induction is about the parts alone.
    rw [← h.quoted, Token.separated]
    clear h
    induction parts with
    | nil => rfl
    | cons part rest ih =>
      cases rest with
      | nil => simp
      | cons next rest =>
        rw [List.intercalate_cons_cons, List.append_assoc, Token.quotedLexemes_append,
          List.singleton_append,
          Token.quotedLexemes_fixed (ne_jsonNullText_of_isFixed separator.plain), ih]
        simp
  · have hspaced := h.spaced trusted
    rw [Token.separated]
    clear h
    induction parts with
    | nil => exact trivial
    | cons part rest ih =>
      rw [List.forall_mem_cons] at hspaced
      cases rest with
      | nil => simpa using hspaced.1
      | cons next rest =>
        rw [List.intercalate_cons_cons, List.append_assoc]
        exact hspaced.1.append ⟨.inl (isPlain_of_isFixed separator.plain), ih hspaced.2⟩
          separator.ends
  · have hfree := h.fixedWithoutNul free
    rw [Token.separated]
    clear h
    induction parts with
    | nil => exact Token.fixedWithoutNul_nil
    | cons part rest ih =>
      rw [List.forall_mem_cons] at hfree
      cases rest with
      | nil => simpa using hfree.1
      | cons next rest =>
        rw [List.intercalate_cons_cons, List.append_assoc]
        exact hfree.1.append ((ih hfree.2).fixed (nul_notMem_of_isFixed separator.plain))

/-- A clause spells what its parts spell; it delimits what stands in front of it. -/
theorem clause (h : SpellsAll parts pieces) (keyword : String) (separator : Separates keyword) :
    Spells (Token.clause keyword parts) pieces ∧
      Token.Delimited (Token.clause keyword parts) := by
  unfold Token.clause
  split
  · rename_i hempty
    rw [List.isEmpty_iff] at hempty
    subst hempty
    exact ⟨⟨h.quoted, fun _ => trivial, fun _ => Token.fixedWithoutNul_nil⟩, trivial⟩
  · exact ⟨(h.separated _ (by decide)).fixed _ separator.plain, separator.ends⟩

/-- What joins the parts of a conjunction writes no piece. -/
theorem conjunction (h : SpellsAll parts pieces) : Spells (Sql.conjunction parts) pieces := by
  unfold Sql.conjunction
  split
  · rename_i hempty
    rw [List.isEmpty_iff] at hempty
    subst hempty
    exact ⟨h.quoted, fun _ => ⟨.inl (by decide), trivial⟩, fun _ =>
      Token.fixedWithoutNul_nil.fixed (by decide)⟩
  · exact h.separated _ (by decide)

/-- Neither does what joins the parts of a disjunction. -/
theorem disjunction (h : SpellsAll parts pieces) : Spells (Sql.disjunction parts) pieces := by
  unfold Sql.disjunction
  split
  · rename_i hempty
    rw [List.isEmpty_iff] at hempty
    subst hempty
    exact ⟨h.quoted, fun _ => ⟨.inl (by decide), trivial⟩, fun _ =>
      Token.fixedWithoutNul_nil.fixed (by decide)⟩
  · exact (h.separated _ (by decide)).enclosed _ _ (by decide) (by decide)

end SpellsAll

end

end RelationalQuery.Sql
