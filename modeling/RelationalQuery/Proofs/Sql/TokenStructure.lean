import RelationalQuery.Proofs.Sql.Pieces
import RelationalQuery.Proofs.Sql.Placeholders

/-!
# The structure of rendered texts

No name and no key can change how a rendered text falls into lexemes.  Reading the text back gives
the names of the tree, its keys with the fixed literals, and the placeholders that were written when
its parameters were bound; nothing stays open.

Main definitions:

- `Tree.pieces` are the pieces of a tree, and `Tree.names` and `Tree.literals` its names and
  literals.

Main results:

- `Tree.lexemes_of_build`: the lexemes of a built text are those of the tokens of its tree.
-/

namespace RelationalQuery.Sql

/-! ## Kinds of lexemes -/

namespace Lexeme

/-- The decoded text of a name. -/
def name? : Lexeme → Option String
  | .name text => some text
  | _ => none

/-- The decoded text of a literal. -/
def literal? : Lexeme → Option String
  | .literal text => some text
  | _ => none

/-- The text of a placeholder. -/
def placeholder? : Lexeme → Option String
  | .placeholder text => some text
  | _ => none

/-- A name or a literal. -/
def isQuoted : Lexeme → Bool
  | .name _ => true
  | .literal _ => true
  | _ => false

end Lexeme

/-- What is read off quoted lexemes alone does not depend on the others. -/
theorem filterMap_filter_isQuoted {read : Lexeme → Option String}
    (h : ∀ lexeme : Lexeme, lexeme.isQuoted = false → read lexeme = none)
    (lexemes : List Lexeme) :
    (lexemes.filter Lexeme.isQuoted).filterMap read = lexemes.filterMap read := by
  rw [List.filterMap_filter]
  congr
  funext lexeme
  cases hlexeme : lexeme.isQuoted with
  | true => rfl
  | false => simp [h lexeme hlexeme]

/-- A text of keywords, operators and punctuation has casts and symbols only. -/
theorem forall_mem_symbols (text : List Char) :
    ∀ lexeme ∈ symbols text, lexeme.isQuoted = false ∧ lexeme.placeholder? = none := by
  fun_induction symbols text with
  | case1 => simp
  | case2 rest ih =>
    rw [List.forall_mem_cons]
    exact ⟨⟨rfl, rfl⟩, ih⟩
  | case3 c rest hpair ih =>
    rw [List.forall_mem_cons]
    exact ⟨⟨rfl, rfl⟩, ih⟩

namespace Token

/-- The only quoted lexeme of fixed texts is that of null in JSON. -/
theorem filter_isQuoted_fixedLexemes (text : String) :
    (fixedLexemes text).filter Lexeme.isQuoted =
      if text = jsonNullText then [.literal "null"] else [] := by
  have hsymbols : ∀ text, (symbols text).filter Lexeme.isQuoted = [] := fun text =>
    List.filter_eq_nil_iff.2 fun lexeme hlexeme => by
      simp [(forall_mem_symbols text lexeme hlexeme).1]
  unfold fixedLexemes
  split
  · rw [List.filter_cons_of_pos rfl, hsymbols]
  · exact hsymbols _

/-- Fixed texts hold no placeholders. -/
theorem filterMap_placeholder_fixedLexemes (text : String) :
    (fixedLexemes text).filterMap Lexeme.placeholder? = [] := by
  have hsymbols : ∀ text, (symbols text).filterMap Lexeme.placeholder? = [] := fun text =>
    List.filterMap_eq_nil_iff.2 fun lexeme hlexeme => (forall_mem_symbols text lexeme hlexeme).2
  unfold fixedLexemes
  split
  · rw [List.filterMap_cons_none rfl, hsymbols]
  · exact hsymbols _

/-- The quoted lexemes of tokens do not depend on the placeholders. -/
theorem filter_isQuoted_lexemes (style : PlaceholderStyle) (index : Nat) (tokens : List Token) :
    (lexemes style index tokens).filter Lexeme.isQuoted = quotedLexemes tokens := by
  induction tokens generalizing index with
  | nil => rfl
  | cons token rest ih =>
    cases token with
    | fixed text =>
      rw [lexemes, List.filter_append, filter_isQuoted_fixedLexemes, ih, quotedLexemes]
    | name identifier | literal text =>
      rw [lexemes, List.filter_cons_of_pos rfl, ih, quotedLexemes]
    | parameter value =>
      rw [lexemes, List.filter_cons_of_neg (by simp [Lexeme.isQuoted]), ih, quotedLexemes]

/-- The placeholders of tokens count their parameters. -/
theorem filterMap_placeholder_lexemes (style : PlaceholderStyle) (index : Nat)
    (tokens : List Token) :
    (lexemes style index tokens).filterMap Lexeme.placeholder? =
      (List.range' index (parameters tokens).length).map style.placeholder := by
  induction tokens generalizing index with
  | nil => rfl
  | cons token rest ih =>
    cases token with
    | fixed text =>
      rw [lexemes, List.filterMap_append, filterMap_placeholder_fixedLexemes, ih]
      rfl
    | name identifier | literal text =>
      rw [lexemes, List.filterMap_cons_none rfl, ih]
      rfl
    | parameter value =>
      have hhead : Lexeme.placeholder? (.placeholder (style.placeholder index)) =
          some (style.placeholder index) := rfl
      rw [lexemes, List.filterMap_cons_some hhead, ih, parameters_parameter_cons, List.length_cons,
        List.range'_succ, List.map_cons]

end Token

/-! ## Trees -/

namespace Piece

/-- The text of a name. -/
def name? : Piece → Option String
  | .name text => some text
  | _ => none

/-- The text of a literal; JSON null as trusted text holds one. -/
def literal? : Piece → Option String
  | .literal text => some text
  | .raw text => if text = jsonNullText then some "null" else none
  | _ => none

end Piece

namespace Tree

/-- The pieces of a tree, from left to right. -/
def pieces : Tree → List Piece
  | .expr e => e.pieces
  | .condition c => c.pieces
  | .statement s => s.pieces
  | .chain c => c.pieces

/-- The names of tables, columns, aliases and statements in a tree, from left to right. -/
def names (tree : Tree) : List String := tree.pieces.filterMap Piece.name?

/-- The keys in a tree and the fixed literals, from left to right. -/
def literals (tree : Tree) : List String := tree.pieces.filterMap Piece.literal?

/-- A tree writes its pieces. -/
theorem spells_of_tokens {tree : Tree} {tokens : List Token} (h : tree.tokens = .ok tokens) :
    Spells tokens tree.pieces := by
  cases tree with
  | expr e => exact Expr.spells_of_tokens h
  | condition c => exact Condition.spells_of_tokens h
  | statement s => exact Statement.spells_of_tokens h
  | chain c => exact Chain.spells_of_tokens h

end Tree

/-- What is read off the quoted lexemes of each piece is read off those of all pieces. -/
theorem filterMap_flatMap_quoted {read : Lexeme → Option String} {piece? : Piece → Option String}
    (h : ∀ piece : Piece, piece.quoted.filterMap read = (piece? piece).toList)
    (pieces : List Piece) :
    (pieces.flatMap Piece.quoted).filterMap read = pieces.filterMap piece? := by
  induction pieces with
  | nil => rfl
  | cons piece rest ih =>
    rw [List.flatMap_cons, List.filterMap_append, h, ih, List.filterMap_cons]
    cases piece? piece <;> rfl

namespace Tree

/-- If the trusted texts of a tree are those of compiled queries and its types are words, then the
built text is read to its end: its lexemes are those of each token of the tree, whatever names and
keys the tree holds.  The quoted lexemes are the names and literals of the tree in their order, and
the placeholders are those of the bound parameters, each exactly once. -/
theorem lexemes_of_build {tree : Tree} {style : PlaceholderStyle} {compiled : CompiledQuery}
    (built : tree.build style = .ok compiled)
    (trusted : ∀ piece ∈ tree.pieces, piece.IsTrusted) :
    ∃ tokens lexemes, tree.tokens = .ok tokens ∧
      lex style compiled.sql.toList = some lexemes ∧
      lexemes = Token.lexemes style 0 tokens ∧
      lexemes.filter Lexeme.isQuoted = tree.pieces.flatMap Piece.quoted ∧
      lexemes.filterMap Lexeme.name? = tree.names ∧
      lexemes.filterMap Lexeme.literal? = tree.literals ∧
      compiled.parameters = tree.parameters ∧
      lexemes.filterMap Lexeme.placeholder? =
        (List.range tree.parameters.length).map style.placeholder := by
  simp only [build, bind_eq_ok_iff, pure_eq_ok_iff] at built
  obtain ⟨tokens, htokens, rfl⟩ := built
  have hspells := spells_of_tokens htokens
  have hparameters := parameters_of_tokens htokens
  have hquoted : (Token.lexemes style 0 tokens).filter Lexeme.isQuoted =
      tree.pieces.flatMap Piece.quoted := by
    rw [Token.filter_isQuoted_lexemes, hspells.quoted]
  refine ⟨tokens, Token.lexemes style 0 tokens, htokens, ?_, rfl, hquoted, ?_, ?_, ?_, ?_⟩
  · rw [toList_sql_ofTokens]
    exact Token.lex_text (hspells.spaced trusted) 0
  · -- Names are quoted lexemes, and these are known piece by piece.
    rw [← filterMap_filter_isQuoted fun lexeme => by cases lexeme <;> simp [Lexeme.isQuoted,
      Lexeme.name?], hquoted]
    refine filterMap_flatMap_quoted (fun piece => ?_) _
    cases piece with
    | name text | literal text | type word => rfl
    | raw text =>
      rw [Piece.quoted]
      split <;> rfl
  · rw [← filterMap_filter_isQuoted fun lexeme => by cases lexeme <;> simp [Lexeme.isQuoted,
      Lexeme.literal?], hquoted]
    refine filterMap_flatMap_quoted (fun piece => ?_) _
    cases piece with
    | name text | literal text | type word => rfl
    | raw text =>
      rw [Piece.quoted, Piece.literal?]
      split <;> rfl
  · rw [← hparameters, CompiledQuery.ofTokens, RenderContext.writeAll_eq]
    simp [RenderContext.start, RenderContext.finish]
  · rw [Token.filterMap_placeholder_lexemes, hparameters, List.range_eq_range']

/-- A chain whose names and keys hold quotes, colons, dollar signs and digits. -/
def hostile : Tree :=
  .chain ⟨"R", [
    .delete ⟨some "a\"b:0",
      some (.compare (.columnText ⟨some "a\"b:0", "c", ["k'$1", "::"]⟩) .equal
        (.parameter (.plain (.string "x'")))),
      [.plain (.raw "*")]⟩,
    .select (.ofColumns
      [.aliased (.cast (.object [("'0", .reference "R0" "\""), ("", .raw jsonNullText)]) "jsonb")
        "1\"\""]
      (.table "R0" none))]⟩

/-- The text of the chain with hostile names. -/
def hostileText : String :=
  "WITH \"R0\" AS (DELETE FROM \"a\"\"b:0\" WHERE " ++
    "\"a\"\"b:0\".\"c\"->'k''$1'->>'::' = :0 RETURNING *) SELECT " ++
    "(json_build_object('''0', \"R0\".\"\"\"\", '', 'null'::jsonb))::jsonb AS \"1\"\"\"\"\" " ++
    "FROM \"R0\""

theorem lexemes_of_build_hostile :
    ∃ lexemes, lex .named hostileText.toList = some lexemes ∧
      lexemes.filterMap Lexeme.name? =
        ["R0", "a\"b:0", "a\"b:0", "c", "R0", "\"", "1\"\"", "R0"] ∧
      lexemes.filterMap Lexeme.literal? = ["k'$1", "::", "'0", "", "null"] ∧
      lexemes.filterMap Lexeme.placeholder? = [":0"] := by
  have built : hostile.build .named = .ok ⟨hostileText, [.plain (.string "x'")]⟩ := by
    decide +kernel
  have hpieces : hostile.pieces = [.name (numberedName "R" 0), .name "a\"b:0", .name "a\"b:0",
      .name "c", .literal "k'$1", .literal "::", .raw "*", .literal "'0", .name "R0",
      .name "\"", .literal "", .raw jsonNullText, .type "jsonb", .name "1\"\"", .name "R0"] := rfl
  have trusted : ∀ piece ∈ hostile.pieces, piece.IsTrusted := by
    rw [hpieces]
    simp [Piece.IsTrusted, IsWord, trustedTexts]
  obtain ⟨tokens, lexemes, -, hlex, -, -, hnames, hliterals, hparameters, hplaceholders⟩ :=
    lexemes_of_build built trusted
  refine ⟨lexemes, hlex, ?_, ?_, ?_⟩
  · rw [hnames]
    rfl
  · rw [hliterals]
    rfl
  · rw [hplaceholders, ← hparameters]
    rfl

end Tree

end RelationalQuery.Sql
