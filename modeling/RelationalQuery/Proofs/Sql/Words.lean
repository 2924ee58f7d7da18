import RelationalQuery.Proofs.Alias
import RelationalQuery.Proofs.Sql.TokenStructure

/-!
# Words and parentheses of a text

The lexemes of a text are read further: a placeholder stands for its parameter, letters and digits
that stand together are a word, operator characters that stand together are an operator, blanks only
separate, and parentheses enclose groups.  Words are read in capitals, since case does not matter
outside of quotes.

The nodes of a text are its words and groups.  Tokens that are written one after the other are read
as the nodes of each of them, if no word and no operator goes on from one token to the next.

Main definitions:

- `Mark` is a lexeme with the parameter in the place of its placeholder, and `words` joins the
  characters of marks.
- `Node` is a word or a group between parentheses, and `nest` finds the groups.
- `nodes?` reads the nodes of a compiled text, and `Token.Reads` relates tokens to their nodes.

Main results:

- `words_append`: texts that do not go on with each other have the words of each of them.
- `Token.Reads.append` and `Token.Reads.enclosed`: tokens that are put together are read as what
  each of them is read as.
- `nodes?_of_build`: the text of a tree is read as the nodes of its tokens.
-/

namespace RelationalQuery.Sql

/-! ## Marks -/

/-- A lexeme with the parameter in the place of its placeholder; symbols are characters at first and
words later. -/
inductive Mark (σ : Type) where
  | name (text : String)
  | literal (text : String)
  | cast
  /-- The parameter of a placeholder, unless the placeholder has none. -/
  | value (parameter? : Option Parameter)
  | symbol (symbol : σ)
deriving DecidableEq

/-- A word, an operator or a single mark. -/
abbrev Word := Mark String

/-- The parameter with a given placeholder; the first one has the given index. -/
def boundTo? (style : PlaceholderStyle) (placeholder : String) :
    Nat → List Parameter → Option Parameter
  | _, [] => none
  | index, parameter :: rest =>
    if style.placeholder index = placeholder then some parameter
    else boundTo? style placeholder (index + 1) rest

/-- Placeholders tell their positions. -/
theorem placeholder_inj {style : PlaceholderStyle} {i j : Nat} :
    style.placeholder i = style.placeholder j ↔ i = j := by
  cases style <;> simp [PlaceholderStyle.placeholder, Text.natural_inj]

/-- A placeholder stands for the parameter with its index. -/
theorem boundTo?_placeholder (style : PlaceholderStyle) (first i : Nat)
    (parameters : List Parameter) :
    boundTo? style (style.placeholder (first + i)) first parameters = parameters[i]? := by
  induction parameters generalizing first i with
  | nil => rfl
  | cons parameter rest ih =>
    cases i with
    | zero => rw [boundTo?, if_pos (by rw [Nat.add_zero]), List.getElem?_cons_zero]
    | succ i =>
      have hindex : first + (i + 1) = first + 1 + i := by omega
      rw [boundTo?, if_neg (fun h => by have := placeholder_inj.1 h; omega), hindex, ih,
        List.getElem?_cons_succ]

/-- The mark of a lexeme, where placeholders are bound as given. -/
def Mark.ofLexeme (bound : String → Option Parameter) : Lexeme → Mark Char
  | .name text => .name text
  | .literal text => .literal text
  | .cast => .cast
  | .placeholder text => .value (bound text)
  | .symbol c => .symbol c

/-- The marks of a token. -/
def Token.marks : Token → List (Mark Char)
  | .fixed text => (fixedLexemes text).map (.ofLexeme fun _ => none)
  | .name identifier => [.name identifier.text]
  | .literal text => [.literal text]
  | .parameter value => [.value (some value)]

/-- The marks of tokens. -/
def Token.allMarks (tokens : List Token) : List (Mark Char) := tokens.flatMap Token.marks

/-- Tokens have their marks in their order. -/
theorem Token.allMarks_append (front back : List Token) :
    allMarks (front ++ back) = allMarks front ++ allMarks back :=
  List.flatMap_append

/-- A fixed text holds no placeholder, so its marks do not depend on what is bound. -/
theorem map_ofLexeme_fixedLexemes (bound : String → Option Parameter) (text : String) :
    (Token.fixedLexemes text).map (Mark.ofLexeme bound) = (Token.fixed text).marks := by
  refine List.map_congr_left fun lexeme hlexeme => ?_
  cases lexeme with
  | placeholder written =>
    have hnone := List.filterMap_eq_nil_iff.1 (Token.filterMap_placeholder_fixedLexemes text) _
      hlexeme
    simp [Lexeme.placeholder?] at hnone
  | name text | literal text | cast | symbol c => rfl

/-- If the placeholders of tokens are bound to their parameters, the lexemes have the marks of the
tokens. -/
theorem map_ofLexeme_lexemes {bound : String → Option Parameter} {style : PlaceholderStyle}
    (tokens : List Token) (first : Nat)
    (h : ∀ i < (Token.parameters tokens).length,
      bound (style.placeholder (first + i)) = (Token.parameters tokens)[i]?) :
    (Token.lexemes style first tokens).map (Mark.ofLexeme bound) = Token.allMarks tokens := by
  induction tokens generalizing first with
  | nil => rfl
  | cons token rest ih =>
    cases token with
    | fixed text =>
      rw [Token.lexemes, List.map_append, map_ofLexeme_fixedLexemes, ih first h]
      rfl
    | name identifier | literal text =>
      rw [Token.lexemes, List.map_cons, ih first h]
      rfl
    | parameter value =>
      rw [Token.parameters_parameter_cons, List.length_cons] at h
      have hvalue : bound (style.placeholder first) = some value := h 0 (Nat.succ_pos _)
      rw [Token.lexemes, List.map_cons, Mark.ofLexeme, hvalue, ih (first + 1) fun i hi => ?_]
      · rfl
      · have hnext := h (i + 1) (Nat.succ_lt_succ hi)
        rwa [List.getElem?_cons_succ, ← Nat.add_assoc, Nat.add_right_comm] at hnext

/-! ## Words -/

/-- A character of words. -/
def isLetter (c : Char) : Bool := c.isAlphanum || c == '_'

/-- A character of operators. -/
def isOperator (c : Char) : Bool := "+-*/<>=~!@#%^&|?".toList.contains c

/-- Two characters belong to one word or to one operator. -/
def joins (c d : Char) : Bool := (isLetter c && isLetter d) || (isOperator c && isOperator d)

/-- A character goes on at the front of what is behind it. -/
def goesOn (c : Char) : List (Mark Char) → Bool
  | .symbol d :: _ => joins c d
  | _ => false

/-- A character in front of the word that it belongs to. -/
def addFront (c : Char) : List Word → List Word
  | .symbol text :: rest => .symbol (String.singleton c.toUpper ++ text) :: rest
  | words => .symbol (String.singleton c.toUpper) :: words

/-- The words of marks. -/
def words : List (Mark Char) → List Word
  | [] => []
  | .name text :: rest => .name text :: words rest
  | .literal text :: rest => .literal text :: words rest
  | .cast :: rest => .cast :: words rest
  | .value parameter? :: rest => .value parameter? :: words rest
  | .symbol c :: rest =>
    if c.isWhitespace then words rest
    else if goesOn c rest then addFront c (words rest)
    else .symbol (String.singleton c.toUpper) :: words rest

/-- A blank, a parenthesis or another mark that stands for itself. -/
def isApart : Mark Char → Bool
  | .symbol c => !isLetter c && !isOperator c
  | _ => true

/-- No word and no operator starts at the front of marks. -/
def Opens (marks : List (Mark Char)) : Prop := marks.head?.all isApart = true

/-- No word and no operator ends at the end of marks. -/
def Closes (marks : List (Mark Char)) : Prop := marks.getLast?.all isApart = true

instance (marks : List (Mark Char)) : Decidable (Opens marks) :=
  inferInstanceAs (Decidable (_ = true))

instance (marks : List (Mark Char)) : Decidable (Closes marks) :=
  inferInstanceAs (Decidable (_ = true))

/-- A word ends where marks open a new one. -/
theorem goesOn_of_opens {marks : List (Mark Char)} (h : Opens marks) (c : Char) :
    goesOn c marks = false := by
  match marks with
  | [] | .name _ :: _ | .literal _ :: _ | .cast :: _ | .value _ :: _ => rfl
  | .symbol d :: _ =>
    have hd : isLetter d = false ∧ isOperator d = false := by simpa [Opens, isApart] using h
    simp [goesOn, joins, hd]

/-- A character that stands apart ends what is before it. -/
theorem goesOn_of_isApart {c : Char} (h : isApart (.symbol c) = true) (marks : List (Mark Char)) :
    goesOn c marks = false := by
  have hc : isLetter c = false ∧ isOperator c = false := by simpa [isApart] using h
  match marks with
  | [] | .name _ :: _ | .literal _ :: _ | .cast :: _ | .value _ :: _ => rfl
  | .symbol d :: _ => simp [goesOn, joins, hc]

/-- Where a character goes on, a word is read. -/
theorem exists_words_of_goesOn {c : Char} {marks : List (Mark Char)} (h : goesOn c marks = true) :
    ∃ text rest, words marks = .symbol text :: rest := by
  match marks with
  | [] | .name _ :: _ | .literal _ :: _ | .cast :: _ | .value _ :: _ => simp [goesOn] at h
  | .symbol d :: behind =>
    have hblank : d.isWhitespace = false := by
      cases hd : d.isWhitespace with
      | false => rfl
      | true =>
        -- A blank is neither a letter nor a part of an operator.
        have hcases : d = ' ' ∨ d = '\t' ∨ d = '\r' ∨ d = '\n' := by
          simpa [Char.isWhitespace, or_assoc] using hd
        rcases hcases with rfl | rfl | rfl | rfl <;>
          exact absurd h (by simp [goesOn, joins, isLetter, isOperator])
    rw [words, if_neg (by simp [hblank])]
    split
    · cases words behind with
      | nil => exact ⟨_, _, rfl⟩
      | cons word rest => cases word <;> exact ⟨_, _, rfl⟩
    · exact ⟨_, _, rfl⟩

/-- Texts between which no word and no operator goes on are read one by one. -/
theorem words_append {front back : List (Mark Char)} (h : Closes front ∨ Opens back) :
    words (front ++ back) = words front ++ words back := by
  induction front with
  | nil => rfl
  | cons mark rest ih =>
    have hrest : Closes rest ∨ Opens back := by
      refine h.imp_left fun hcloses => ?_
      cases rest with
      | nil => rfl
      | cons next rest => simpa [Closes, List.getLast?_cons_cons] using hcloses
    cases mark with
    | name text | literal text | cast | value parameter? =>
      rw [List.cons_append, words, words, ih hrest, List.cons_append]
    | symbol c =>
      have hgoesOn : goesOn c (rest ++ back) = goesOn c rest := by
        cases rest with
        | nil =>
          rcases h with hcloses | hopens
          · exact goesOn_of_isApart (by simpa [Closes] using hcloses) _
          · exact goesOn_of_opens hopens c
        | cons next rest => cases next <;> rfl
      rw [List.cons_append, words, words, hgoesOn, ih hrest]
      split
      · rfl
      split
      · rename_i hc
        obtain ⟨text, others, hwords⟩ := exists_words_of_goesOn hc
        rw [hwords]
        rfl
      · rfl

/-! ## Groups -/

/-- A word, or what stands between parentheses. -/
inductive Node where
  | word (word : Word)
  | group (nodes : List Node)

/-- The parenthesis in front of a group. -/
def Word.opening : Word := .symbol "("

/-- The parenthesis behind a group. -/
def Word.closing : Word := .symbol ")"

/-- The nodes of words, unless a parenthesis lacks its partner.  `done` are the nodes that are read
already, and `outer` holds those in front of each open parenthesis, the innermost first. -/
def nest (outer : List (List Node)) (done : List Node) : List Word → Option (List Node)
  | [] => if outer.isEmpty then some done else none
  | word :: rest =>
    if word = Word.opening then nest (done :: outer) [] rest
    else if word = Word.closing then
      match outer with
      | [] => none
      | before :: outer => nest outer (before ++ [.group done]) rest
    else nest outer (done ++ [.word word]) rest

section

variable (outer : List (List Node)) (before done : List Node) (rest : List Word)

/-- An opening parenthesis starts a group. -/
theorem nest_opening : nest outer done (Word.opening :: rest) = nest (done :: outer) [] rest :=
  rfl

/-- A closing one ends the group and puts it behind what is before it. -/
theorem nest_closing :
    nest (before :: outer) done (Word.closing :: rest) =
      nest outer (before ++ [.group done]) rest :=
  rfl

end

/-- Neither parenthesis. -/
def Word.isInner (word : Word) : Bool := word != Word.opening && word != Word.closing

/-- Any other word stands in the group that is open. -/
theorem nest_cons_inner {word : Word} (inner : word.isInner = true) (outer : List (List Node))
    (done : List Node) (rest : List Word) :
    nest outer done (word :: rest) = nest outer (done ++ [.word word]) rest := by
  have hword : word ≠ Word.opening ∧ word ≠ Word.closing := by simpa [Word.isInner] using inner
  rw [nest.eq_def]
  exact (if_neg hword.1).trans (if_neg hword.2)

/-- So do several of them. -/
theorem nest_inner {front : List Word} (inner : front.all Word.isInner = true)
    (outer : List (List Node)) (done : List Node) (rest : List Word) :
    nest outer done (front ++ rest) = nest outer (done ++ front.map .word) rest := by
  induction front generalizing done with
  | nil => simp
  | cons word front ih =>
    rw [List.all_cons, Bool.and_eq_true] at inner
    rw [List.cons_append, nest_cons_inner inner.1, ih inner.2, List.map_cons, List.append_assoc,
      List.singleton_append]

/-- The nodes of a compiled text, whose placeholders stand for its parameters. -/
def nodes? (style : PlaceholderStyle) (compiled : CompiledQuery) : Option (List Node) := do
  let lexemes ← lex style compiled.sql.toList
  nest [] [] (words (lexemes.map (.ofLexeme (boundTo? style · 0 compiled.parameters))))

/-! ## Nodes of tokens -/

namespace Token

/-- The nodes that tokens are read as on their own. -/
def nodes? (tokens : List Token) : Option (List Node) := nest [] [] (words (allMarks tokens))

/-- The words of a fixed text. -/
def fixedWords (text : String) : List Word := words (Token.fixed text).marks

/-- The words of a fixed text as nodes. -/
def fixedNodes (text : String) : List Node := (fixedWords text).map .word

/-- A fixed text in front of tokens with which it does not go on. -/
def Parted (text : String) (tokens : List Token) : Prop :=
  Closes (Token.fixed text).marks ∨ Opens (allMarks tokens)

/-- A fixed text without parentheses that stands apart from what is in front of it and behind it. -/
structure IsSeparator (text : String) : Prop where
  inner : (fixedWords text).all Word.isInner = true
  opens : (Token.fixed text).marks.head?.any isApart = true
  closes : Closes (Token.fixed text).marks

instance (text : String) : Decidable (IsSeparator text) :=
  decidable_of_iff (_ ∧ _ ∧ _) ⟨fun h => ⟨h.1, h.2.1, h.2.2⟩, fun h => ⟨h.1, h.2, h.3⟩⟩

/-- Two fixed texts of which the first ends with a parenthesis and the second starts with one; the
words in front of the first parenthesis and behind the second one are given. -/
structure Encloses (lead trail : String) (before behind : List Word) : Prop where
  lead_words : fixedWords lead = before ++ [Word.opening]
  before_inner : before.all Word.isInner = true
  closes : Closes (Token.fixed lead).marks
  trail_words : fixedWords trail = Word.closing :: behind
  behind_inner : behind.all Word.isInner = true
  opens : Opens (Token.fixed trail).marks

instance (lead trail : String) (before behind : List Word) :
    Decidable (Encloses lead trail before behind) :=
  decidable_of_iff (_ ∧ _ ∧ _ ∧ _ ∧ _ ∧ _)
    ⟨fun h => ⟨h.1, h.2.1, h.2.2.1, h.2.2.2.1, h.2.2.2.2.1, h.2.2.2.2.2⟩,
      fun h => ⟨h.1, h.2, h.3, h.4, h.5, h.6⟩⟩

/-- In any place where no word goes on behind them, tokens are read as the given nodes. -/
def Reads (tokens : List Token) (nodes : List Node) : Prop :=
  ∀ rest : List (Mark Char), Opens rest → ∀ outer done,
    nest outer done (words (allMarks tokens ++ rest)) = nest outer (done ++ nodes) (words rest)

/-- The nodes that tokens are read as are computed. -/
theorem nodes?_of_reads {tokens : List Token} {nodes : List Node} (h : Reads tokens nodes) :
    Token.nodes? tokens = some nodes := by
  have hread := h [] rfl [] []
  rwa [List.append_nil] at hread

/-- A fixed text whose first mark stands apart opens a new word. -/
theorem opens_fixed {text : String} (h : (Token.fixed text).marks.head?.any isApart = true)
    (tokens : List Token) : Opens (allMarks (.fixed text :: tokens)) := by
  rw [allMarks, List.flatMap_cons]
  cases hmarks : (Token.fixed text).marks with
  | nil => simp [hmarks] at h
  | cons mark rest => simpa [Opens, hmarks] using h

/-- Tokens that open are opened by what follows them if there are none. -/
theorem opens_append {tokens : List Token} {rest : List (Mark Char)}
    (htokens : Opens (allMarks tokens)) (hrest : Opens rest) : Opens (allMarks tokens ++ rest) := by
  cases hmarks : allMarks tokens with
  | nil => exact hrest
  | cons mark others =>
    rw [hmarks] at htokens
    exact htokens

namespace Reads

variable {tokens front back : List Token} {nodes left right : List Node}

theorem nil : Reads [] [] := by
  intro rest _ outer done
  rw [List.append_nil]
  rfl

/-- What opens behind tokens is read after them. -/
theorem append (hfront : Reads front left) (hback : Reads back right)
    (opens : Opens (allMarks back)) : Reads (front ++ back) (left ++ right) := by
  intro rest hrest outer done
  rw [allMarks_append, List.append_assoc, hfront _ (opens_append opens hrest), hback _ hrest,
    List.append_assoc]

/-- A name is read as a word. -/
theorem name (identifier : Identifier) (h : Reads tokens nodes) :
    Reads (.name identifier :: tokens) (.word (.name identifier.text) :: nodes) := by
  intro rest hrest outer done
  have hnode : nest outer done (.name identifier.text :: words (allMarks tokens ++ rest)) =
      nest outer (done ++ [.word (.name identifier.text)]) (words (allMarks tokens ++ rest)) :=
    rfl
  exact hnode.trans (by rw [h _ hrest, List.append_assoc, List.singleton_append])

/-- A literal is read as a word. -/
theorem literal (text : String) (h : Reads tokens nodes) :
    Reads (.literal text :: tokens) (.word (.literal text) :: nodes) := by
  intro rest hrest outer done
  have hnode : nest outer done (.literal text :: words (allMarks tokens ++ rest)) =
      nest outer (done ++ [.word (.literal text)]) (words (allMarks tokens ++ rest)) :=
    rfl
  exact hnode.trans (by rw [h _ hrest, List.append_assoc, List.singleton_append])

/-- A placeholder is read as the value that is bound to it. -/
theorem parameter (value : Parameter) (h : Reads tokens nodes) :
    Reads (.parameter value :: tokens) (.word (.value (some value)) :: nodes) := by
  intro rest hrest outer done
  have hnode : nest outer done (.value (some value) :: words (allMarks tokens ++ rest)) =
      nest outer (done ++ [.word (.value (some value))]) (words (allMarks tokens ++ rest)) :=
    rfl
  exact hnode.trans (by rw [h _ hrest, List.append_assoc, List.singleton_append])

end Reads

/-- The words of a fixed text are read before those behind it. -/
theorem words_fixed {text : String} {tokens : List Token} {rest : List (Mark Char)}
    (parted : Parted text tokens) (hrest : Opens rest) :
    words (allMarks (.fixed text :: tokens) ++ rest) =
      fixedWords text ++ words (allMarks tokens ++ rest) := by
  have hsplit : allMarks (.fixed text :: tokens) ++ rest =
      (Token.fixed text).marks ++ (allMarks tokens ++ rest) := by
    rw [allMarks, List.flatMap_cons, List.append_assoc]
    rfl
  rw [hsplit, words_append (parted.imp_right (opens_append · hrest))]
  rfl

namespace Reads

variable {tokens front back : List Token} {nodes left right : List Node}

/-- A fixed text without parentheses is read as its words. -/
theorem fixed (h : Reads tokens nodes) (text : String)
    (inner : (fixedWords text).all Word.isInner = true) (parted : Parted text tokens) :
    Reads (.fixed text :: tokens) (fixedNodes text ++ nodes) := by
  intro rest hrest outer done
  rw [words_fixed parted hrest, nest_inner inner, h _ hrest, List.append_assoc]
  rfl

/-- A fixed text without parentheses on its own. -/
theorem keyword (text : String) (inner : (fixedWords text).all Word.isInner = true) :
    Reads [.fixed text] (fixedNodes text) := by
  simpa using nil.fixed text inner (.inr rfl)

/-- A fixed text between tokens. -/
theorem between (hfront : Reads front left) (text : String) (separator : IsSeparator text)
    (hback : Reads back right) :
    Reads (front ++ .fixed text :: back) (left ++ (fixedNodes text ++ right)) :=
  hfront.append (hback.fixed text separator.inner (.inl separator.closes))
    (opens_fixed separator.opens back)

/-- Tokens between two fixed texts that enclose them are a group. -/
theorem enclosed (h : Reads tokens nodes) (lead trail : String) (before behind : List Word)
    (encloses : Encloses lead trail before behind) :
    Reads (.fixed lead :: tokens ++ [.fixed trail])
      (before.map .word ++ .group nodes :: behind.map .word) := by
  intro rest hrest outer done
  have htrailMarks : allMarks [.fixed trail] = (Token.fixed trail).marks := by
    simp [allMarks]
  have htail : Opens (allMarks [Token.fixed trail] ++ rest) :=
    opens_append (htrailMarks ▸ encloses.opens) hrest
  have hfront : words (allMarks (.fixed lead :: tokens ++ [.fixed trail]) ++ rest) =
      before ++ Word.opening :: words (allMarks tokens ++ (allMarks [.fixed trail] ++ rest)) := by
    rw [List.cons_append, words_fixed (.inl encloses.closes) hrest, encloses.lead_words,
      allMarks_append, List.append_assoc, List.append_assoc]
    rfl
  have hback : words (allMarks [.fixed trail] ++ rest) =
      Word.closing :: (behind ++ words rest) := by
    rw [words_fixed (.inr rfl : Parted trail []) hrest, encloses.trail_words]
    rfl
  rw [hfront, nest_inner encloses.before_inner, nest_opening, h _ htail, hback, nest_closing,
    nest_inner encloses.behind_inner, List.append_assoc, List.append_assoc]
  rfl

end Reads

end Token

/-- The text of a tree is read as the nodes of its tokens. -/
theorem nodes?_of_build {tree : Tree} {style : PlaceholderStyle} {compiled : CompiledQuery}
    (built : tree.build style = .ok compiled)
    (trusted : ∀ piece ∈ tree.pieces, piece.IsTrusted) :
    ∃ tokens, tree.tokens = .ok tokens ∧ nodes? style compiled = Token.nodes? tokens := by
  obtain ⟨tokens, lexemes, htokens, hlex, rfl, -, -, -, hparameters, -⟩ :=
    Tree.lexemes_of_build built trusted
  refine ⟨tokens, htokens, ?_⟩
  have hmarks : (Token.lexemes style 0 tokens).map
      (.ofLexeme (boundTo? style · 0 compiled.parameters)) = Token.allMarks tokens := by
    refine map_ofLexeme_lexemes tokens 0 fun i _ => ?_
    rw [boundTo?_placeholder, hparameters, Tree.parameters_of_tokens htokens]
  rw [nodes?, hlex, Option.bind_eq_bind, Option.bind_some, hmarks]
  rfl

end RelationalQuery.Sql
