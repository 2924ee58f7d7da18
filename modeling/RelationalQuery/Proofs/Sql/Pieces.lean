import RelationalQuery.Proofs.Sql.Rendered
import RelationalQuery.Proofs.Sql.Spelling

/-!
# What trees spell

The names, keys, trusted texts and types that a tree writes are read off the tree alone, in the
order in which they are written.  Rendering gives tokens that spell exactly these: the separators of
the renderer delimit every piece.

Main definitions:

- `Expr.pieces`, `Condition.pieces`, `Select.pieces` and their companions are the pieces of trees.

Main results:

- `Expr.spells_of_tokens`, `Condition.spells_of_conjuncts`, `Select.spells_of_tokens`,
  `Statement.spells_of_tokens` and `Chain.spells_of_tokens`: the tokens of a tree spell its pieces.
-/

namespace RelationalQuery.Sql

/-! ## Parts without nested trees -/

/-- The pieces of names. -/
def namePieces (names : List String) : List Piece := names.map .name

/-- The pieces of a column with an optional qualifier. -/
def qualifiedPieces (qualifier? : Option String) (name : String) : List Piece :=
  namePieces (qualifier?.toList ++ [name])

/-- The pieces of a column: its names and the keys of its path. -/
def ColumnRef.pieces (column : ColumnRef) : List Piece :=
  qualifiedPieces column.qualifier? column.name ++ column.path.map .literal

/-- An operation inside JSON writes the type of numbers twice. -/
def ColumnRef.operationPieces (target : ColumnRef) (numericType : String) : List Piece :=
  target.pieces ++ if target.path.isEmpty then [] else [.type numericType, .type numericType]

/-- A name writes a name. -/
theorem spells_of_nameTokens {name : String} {tokens : List Token}
    (h : nameTokens name = .ok tokens) : Spells tokens [.name name] := by
  simp only [nameTokens, bind_eq_ok_iff, pure_eq_ok_iff] at h
  obtain ⟨identifier, hname, rfl⟩ := h
  have htext : identifier.text = name := by
    unfold Identifier.ofText at hname
    split at hname
    · split at hname
      · rw [← Except.ok.inj hname]
      · simp at hname
    · simp at hname
  rw [← htext]
  exact .name identifier

/-- Names write names. -/
theorem spellsAll_of_mapM_nameTokens {names : List String} {parts : List (List Token)}
    (h : names.mapM nameTokens = .ok parts) : SpellsAll parts (namePieces names) := by
  rw [namePieces, ← List.flatMap_singleton' names, List.map_flatMap]
  exact .of_mapM h spells_of_nameTokens

/-- A qualified name writes two names. -/
theorem spells_of_qualifiedTokens {qualifier? : Option String} {name : String}
    {tokens : List Token} (h : qualifiedTokens qualifier? name = .ok tokens) :
    Spells tokens (qualifiedPieces qualifier? name) := by
  unfold qualifiedTokens at h
  cases qualifier? with
  | none => exact spells_of_nameTokens h
  | some qualifier =>
    simp only [bind_eq_ok_iff, pure_eq_ok_iff] at h
    obtain ⟨front, hfront, back, hback, rfl⟩ := h
    exact (spells_of_nameTokens hfront).between _ (by decide) (spells_of_nameTokens hback)

namespace ColumnRef

/-- A column writes its name and the literals of its keys. -/
theorem spells_of_tokens {column : ColumnRef} {tokens : List Token}
    (h : column.tokens = .ok tokens) : Spells tokens column.pieces := by
  simp only [ColumnRef.tokens, bind_eq_ok_iff, pure_eq_ok_iff] at h
  obtain ⟨front, hfront, rfl⟩ := h
  have hpath : ∀ path : List String,
      let subscripts := path.flatMap fun key => [Token.fixed "[", .literal key, .fixed "]"]
      Spells subscripts (path.map .literal) ∧ Token.Delimited subscripts := by
    intro path
    induction path with
    | nil => exact ⟨.nil, trivial⟩
    | cons key rest ih =>
      have hkey := (Spells.literal key).enclosed "[" "]" (by decide) (by decide)
      exact ⟨hkey.append ih.1 ih.2, rfl⟩
  exact (spells_of_qualifiedTokens hfront).append (hpath column.path).1 (hpath column.path).2

/-- The keys behind arrows write literals. -/
theorem spells_arrowTokens (path : List String) :
    Spells (arrowTokens path) (path.map .literal) ∧ Token.Delimited (arrowTokens path) := by
  induction path with
  | nil => exact ⟨.nil, trivial⟩
  | cons key rest ih =>
    cases rest with
    | nil => exact ⟨(Spells.literal key).fixed _ (by decide), rfl⟩
    | cons next rest =>
      exact ⟨((Spells.literal key).append ih.1 ih.2).fixed _ (by decide), rfl⟩

theorem spells_of_textTokens {column : ColumnRef} {tokens : List Token}
    (h : column.textTokens = .ok tokens) : Spells tokens column.pieces := by
  simp only [textTokens, bind_eq_ok_iff, pure_eq_ok_iff] at h
  obtain ⟨front, hfront, rfl⟩ := h
  exact (spells_of_qualifiedTokens hfront).append (spells_arrowTokens column.path).1
    (spells_arrowTokens column.path).2

/-- An operation writes its target, and its type if it is inside a column. -/
theorem spells_of_operationTokens {target : ColumnRef} {operator : ArithmeticOperator}
    {operand : Parameter} {numericType : String} {tokens : List Token}
    (h : target.operationTokens operator operand numericType = .ok tokens) :
    Spells tokens (target.operationPieces numericType) := by
  unfold operationTokens at h
  unfold operationPieces
  split at h
  · simp only [bind_eq_ok_iff, pure_eq_ok_iff] at h
    obtain ⟨column, hcolumn, rfl⟩ := h
    have hoperand := (Spells.parameter operand).closed "))" (by decide)
    have hsymbol : Separates (" " ++ operator.symbol ++ " (") := by
      cases operator <;> decide
    rw [if_pos ‹_›]
    exact ((spells_of_tokens hcolumn).fixed _ (by decide)).between _ hsymbol hoperand
  · simp only [bind_eq_ok_iff, pure_eq_ok_iff] at h
    obtain ⟨column, hcolumn, rfl⟩ := h
    have hsymbol : isFixed (" " ++ operator.symbol ++ " (") = true := by
      cases operator <;> decide
    have hdelimits : ∀ trail, Token.delimits (")::" ++ numericType ++ trail) = true := fun trail =>
      Token.delimits_append (Token.delimits_append (by decide) numericType) trail
    -- The type is written in one text with the operator behind it.
    have htext : ")::" ++ numericType ++ " " ++ operator.symbol ++ " (" =
        ")::" ++ numericType ++ (" " ++ operator.symbol ++ " (") := by
      simp only [String.append_assoc]
    have hback : Spells [.fixed (")::" ++ numericType ++ ")::text::jsonb")] [.type numericType] :=
      Spells.nil.type _ numericType _ (by decide) (by decide) (by decide)
    have hoperand := (Spells.parameter operand).append hback (hdelimits _)
    rw [if_neg ‹_›, htext]
    exact ((spells_of_textTokens hcolumn).fixed _ (by decide)).append
      (hoperand.type _ numericType _ (by decide) (by decide) hsymbol) (hdelimits _)

end ColumnRef

/-- A name of its own is the last piece of a part. -/
theorem spells_of_aliasedTokens {part tokens : List Token} {pieces : List Piece}
    {alias? : Option String} (h : aliasedTokens part alias? = .ok tokens)
    (hpart : Spells part pieces) : Spells tokens (pieces ++ namePieces alias?.toList) := by
  unfold aliasedTokens at h
  cases alias? with
  | none =>
    rw [← pure_eq_ok_iff.1 h]
    simpa [namePieces] using hpart
  | some label =>
    simp only [bind_eq_ok_iff, pure_eq_ok_iff] at h
    obtain ⟨name, hname, rfl⟩ := h
    exact hpart.between _ (by decide) (spells_of_nameTokens hname)

/-- A count writes no piece. -/
theorem spells_countTokens (keyword : String) (separator : Separates keyword)
    (count? : Option UInt64) :
    Spells (countTokens keyword count?) [] ∧ Token.Delimited (countTokens keyword count?) := by
  cases count? with
  | none => exact ⟨.nil, trivial⟩
  | some count => exact ⟨(Spells.parameter _).fixed _ separator.plain, separator.ends⟩

/-- A union writes the names of its sources. -/
theorem spells_of_unionTokens {sources : List String} {tokens : List Token}
    (h : unionTokens sources = .ok tokens) : Spells tokens (namePieces sources) := by
  simp only [unionTokens, bind_eq_ok_iff, pure_eq_ok_iff] at h
  obtain ⟨parts, hparts, rfl⟩ := h
  refine SpellsAll.separated ?_ _ (by decide)
  rw [namePieces, ← List.flatMap_singleton' sources, List.map_flatMap]
  refine .of_mapM hparts ?_
  intro source tokens hsource
  simp only [bind_eq_ok_iff, pure_eq_ok_iff] at hsource
  obtain ⟨name, hname, rfl⟩ := hsource
  exact (spells_of_nameTokens hname).fixed _ (by decide)

/-! ## Pieces of expressions, conditions and selections -/

mutual

/-- The pieces of an expression, from left to right. -/
def Expr.pieces : Expr → List Piece
  | .null => []
  | .parameter _ => []
  | .column column => column.pieces
  | .columnText column => column.pieces
  | .reference source column => qualifiedPieces (some source) column
  | .operation target _ _ numericType => target.operationPieces numericType
  | .cast value type => value.pieces ++ [.type type]
  | .object entries => Expr.entryPieces entries
  | .aggregate value order => value.pieces ++ OrderTerm.listPieces order ++ [.literal "[]"]
  | .merge target entries => target.pieces ++ [.literal "\x7b\x7d"] ++ Expr.entryPieces entries
  | .subquery query => query.pieces
  | .raw text => [.raw text]

/-- The pieces of entries: each key with the pieces of its value. -/
def Expr.entryPieces : List (String × Expr) → List Piece
  | [] => []
  | (key, value) :: rest => .literal key :: value.pieces ++ Expr.entryPieces rest

/-- The pieces of a list of expressions. -/
def Expr.listPieces : List Expr → List Piece
  | [] => []
  | expr :: rest => expr.pieces ++ Expr.listPieces rest

/-- The pieces of the keys of an order. -/
def OrderTerm.listPieces : List OrderTerm → List Piece
  | [] => []
  | ⟨expr, _⟩ :: rest => expr.pieces ++ OrderTerm.listPieces rest

/-- The pieces of the columns of a result. -/
def Projection.listPieces : List Projection → List Piece
  | [] => []
  | ⟨expr, alias?⟩ :: rest =>
    expr.pieces ++ namePieces alias?.toList ++ Projection.listPieces rest

/-- The pieces of a condition, from left to right.  A membership test of an empty list does not
write the tested expression. -/
def Condition.pieces : Condition → List Piece
  | .and conditions => Condition.listPieces conditions
  | .or conditions => Condition.listPieces conditions
  | .not condition => condition.pieces
  | .compare left _ right => left.pieces ++ right.pieces
  | .nullCheck expr _ => expr.pieces
  | .inList _ [] => []
  | .inList expr (value :: values) => expr.pieces ++ (value.pieces ++ Expr.listPieces values)
  | .between expr low high => expr.pieces ++ low.pieces ++ high.pieces
  | .startsWith expr lead => expr.pieces ++ lead.pieces
  | .containsText expr needle => expr.pieces ++ needle.pieces
  | .hasKey column key => column.pieces ++ [.literal key]
  | .exists query _ => query.pieces
  | .raw text => [.raw text]

/-- The pieces of a list of conditions. -/
def Condition.listPieces : List Condition → List Piece
  | [] => []
  | condition :: rest => condition.pieces ++ Condition.listPieces rest

/-- The pieces of the rows of a selection. -/
def FromItem.pieces : FromItem → List Piece
  | .table name alias? => .name name :: namePieces alias?.toList
  | .subquery query label => query.pieces ++ [.name label]
  | .unionAll sources label => namePieces sources ++ [.name label]

/-- The pieces of the rows of a selection, if it has rows. -/
def FromItem.clausePieces : Option FromItem → List Piece
  | none => []
  | some item => item.pieces

/-- The pieces of a condition, if there is one. -/
def Condition.clausePieces : Option Condition → List Piece
  | none => []
  | some condition => condition.pieces

/-- The pieces of a selection: columns, rows, condition and order. -/
def Select.pieces : Select → List Piece
  | ⟨columns, from?, where?, order, _, _⟩ =>
    Projection.listPieces columns ++ FromItem.clausePieces from? ++
      Condition.clausePieces where? ++ OrderTerm.listPieces order

end

/-! ## Trees spell their pieces -/

mutual

/-- The tokens of an expression spell its pieces. -/
theorem Expr.spells_of_tokens : ∀ {expr : Expr} {tokens : List Token},
    expr.tokens = .ok tokens → Spells tokens expr.pieces
  | .null, _, h => by
    rw [Expr.tokens, Except.ok.injEq] at h
    rw [← h, Expr.pieces]
    exact .keyword _ (by decide)
  | .parameter value, _, h => by
    rw [Expr.tokens, Except.ok.injEq] at h
    rw [← h, Expr.pieces]
    exact .parameter value
  | .column column, _, h => by
    rw [Expr.tokens] at h
    rw [Expr.pieces]
    exact ColumnRef.spells_of_tokens h
  | .columnText column, _, h => by
    rw [Expr.tokens] at h
    rw [Expr.pieces]
    exact ColumnRef.spells_of_textTokens h
  | .reference source column, _, h => by
    rw [Expr.tokens] at h
    rw [Expr.pieces]
    exact spells_of_qualifiedTokens h
  | .operation target operator operand numericType, _, h => by
    rw [Expr.tokens] at h
    rw [Expr.pieces]
    exact ColumnRef.spells_of_operationTokens h
  | .cast value type, _, h => by
    simp only [Expr.tokens, bind_eq_ok_iff, pure_eq_ok_iff] at h
    obtain ⟨valueTokens, hvalue, rfl⟩ := h
    have htype : Spells [.fixed (")::" ++ type)] [.type type] := by
      simpa using Spells.nil.type ")::" type "" (by decide) (by decide) (by decide)
    rw [Expr.pieces]
    exact ((Expr.spells_of_tokens hvalue).fixed _ (by decide)).append htype
      (Token.delimits_append (by decide) type)
  | .object entries, _, h => by
    simp only [Expr.tokens, bind_eq_ok_iff, pure_eq_ok_iff] at h
    obtain ⟨entryTokens, hentries, rfl⟩ := h
    rw [Expr.pieces]
    exact ((Expr.spells_of_entryTokens hentries).separated _ (by decide)).enclosed _ _
      (by decide) (by decide)
  | .aggregate value order, _, h => by
    simp only [Expr.tokens, bind_eq_ok_iff, pure_eq_ok_iff] at h
    obtain ⟨valueTokens, hvalue, orderTokens, horder, rfl⟩ := h
    have hempty : Spells [.fixed "), ", .literal "[]", .fixed "::json)"] [.literal "[]"] :=
      (Spells.literal "[]").enclosed _ _ (by decide) (by decide)
    have hclause := (OrderTerm.spells_of_listTokens horder).clause " ORDER BY " (by decide)
    rw [Expr.pieces]
    exact (((Expr.spells_of_tokens hvalue).fixed _ (by decide)).append hclause.1 hclause.2).append
      hempty rfl
  | .merge target entries, _, h => by
    simp only [Expr.tokens, bind_eq_ok_iff, pure_eq_ok_iff] at h
    obtain ⟨targetTokens, htarget, entryTokens, hentries, rfl⟩ := h
    -- The entries follow a fixed text, so nothing has to delimit what stands in front of them.
    have hvalues := ((Expr.spells_of_entryTokens hentries).separated ", " (by decide)).enclosed
      "::jsonb) || jsonb_build_object(" ")" (by decide) (by decide)
    have hrest := (Spells.literal "\x7b\x7d").append hvalues rfl
    rw [Expr.pieces]
    simpa using ((ColumnRef.spells_of_tokens htarget).fixed "COALESCE(" (by decide)).between ", "
      (by decide) hrest
  | .subquery query, _, h => by
    simp only [Expr.tokens, bind_eq_ok_iff, pure_eq_ok_iff] at h
    obtain ⟨queryTokens, hquery, rfl⟩ := h
    rw [Expr.pieces]
    exact (Select.spells_of_tokens hquery).enclosed _ _ (by decide) (by decide)
  | .raw text, _, h => by
    rw [Expr.tokens, Except.ok.injEq] at h
    rw [← h, Expr.pieces]
    exact .raw text

/-- The tokens of entries spell their keys with the pieces of their values. -/
theorem Expr.spells_of_entryTokens : ∀ {entries : List (String × Expr)}
    {parts : List (List Token)}, Expr.entryTokens entries = .ok parts →
      SpellsAll parts (Expr.entryPieces entries)
  | [], _, h => by
    rw [Expr.entryTokens, Except.ok.injEq] at h
    rw [← h, Expr.entryPieces]
    exact .nil
  | (key, value) :: rest, _, h => by
    simp only [Expr.entryTokens, bind_eq_ok_iff, pure_eq_ok_iff] at h
    obtain ⟨valueTokens, hvalue, others, hrest, rfl⟩ := h
    rw [Expr.entryPieces]
    exact .cons ((Spells.literal key).between _ (by decide) (Expr.spells_of_tokens hvalue))
      (Expr.spells_of_entryTokens hrest)

/-- The tokens of a list of expressions spell their pieces. -/
theorem Expr.spells_of_listTokens : ∀ {exprs : List Expr} {parts : List (List Token)},
    Expr.listTokens exprs = .ok parts → SpellsAll parts (Expr.listPieces exprs)
  | [], _, h => by
    rw [Expr.listTokens, Except.ok.injEq] at h
    rw [← h, Expr.listPieces]
    exact .nil
  | expr :: rest, _, h => by
    simp only [Expr.listTokens, bind_eq_ok_iff, pure_eq_ok_iff] at h
    obtain ⟨exprTokens, hexpr, others, hrest, rfl⟩ := h
    rw [Expr.listPieces]
    exact .cons (Expr.spells_of_tokens hexpr) (Expr.spells_of_listTokens hrest)

/-- The tokens of an order spell the pieces of its keys. -/
theorem OrderTerm.spells_of_listTokens : ∀ {order : List OrderTerm}
    {parts : List (List Token)}, OrderTerm.listTokens order = .ok parts →
      SpellsAll parts (OrderTerm.listPieces order)
  | [], _, h => by
    rw [OrderTerm.listTokens, Except.ok.injEq] at h
    rw [← h, OrderTerm.listPieces]
    exact .nil
  | ⟨expr, direction⟩ :: rest, _, h => by
    simp only [OrderTerm.listTokens, bind_eq_ok_iff, pure_eq_ok_iff] at h
    obtain ⟨exprTokens, hexpr, others, hrest, rfl⟩ := h
    have hwords : Separates direction.words := by cases direction <;> decide
    rw [OrderTerm.listPieces]
    exact .cons ((Expr.spells_of_tokens hexpr).closed _ hwords)
      (OrderTerm.spells_of_listTokens hrest)

/-- The tokens of the columns of a result spell their pieces. -/
theorem Projection.spells_of_listTokens : ∀ {columns : List Projection}
    {parts : List (List Token)}, Projection.listTokens columns = .ok parts →
      SpellsAll parts (Projection.listPieces columns)
  | [], _, h => by
    rw [Projection.listTokens, Except.ok.injEq] at h
    rw [← h, Projection.listPieces]
    exact .nil
  | ⟨expr, alias?⟩ :: rest, _, h => by
    simp only [Projection.listTokens, bind_eq_ok_iff, pure_eq_ok_iff] at h
    obtain ⟨exprTokens, hexpr, column, hcolumn, others, hrest, rfl⟩ := h
    rw [Projection.listPieces]
    exact .cons (spells_of_aliasedTokens hcolumn (Expr.spells_of_tokens hexpr))
      (Projection.spells_of_listTokens hrest)

/-- The tokens of the parts of a condition spell its pieces. -/
theorem Condition.spells_of_conjuncts : ∀ {condition : Condition}
    {parts : List (List Token)}, condition.conjuncts = .ok parts →
      SpellsAll parts condition.pieces
  | .and conditions, _, h => by
    rw [Condition.conjuncts] at h
    rw [Condition.pieces]
    exact Condition.spells_of_allConjuncts h
  | .or conditions, _, h => by
    simp only [Condition.conjuncts, bind_eq_ok_iff, pure_eq_ok_iff] at h
    obtain ⟨inner, hinner, rfl⟩ := h
    rw [Condition.pieces]
    exact .singleton (Condition.spells_of_listTokens hinner).disjunction
  | .not condition, _, h => by
    simp only [Condition.conjuncts, bind_eq_ok_iff, pure_eq_ok_iff] at h
    obtain ⟨inner, hinner, rfl⟩ := h
    rw [Condition.pieces]
    exact .singleton
      ((Condition.spells_of_conjuncts hinner).conjunction.enclosed _ _ (by decide) (by decide))
  | .compare left comparison right, _, h => by
    simp only [Condition.conjuncts, bind_eq_ok_iff, pure_eq_ok_iff] at h
    obtain ⟨leftTokens, hleft, rightTokens, hright, rfl⟩ := h
    have hsymbol : Separates (" " ++ comparison.symbol ++ " ") := by
      cases comparison <;> decide
    rw [Condition.pieces]
    exact .singleton
      ((Expr.spells_of_tokens hleft).between _ hsymbol (Expr.spells_of_tokens hright))
  | .nullCheck expr isNull, _, h => by
    simp only [Condition.conjuncts, bind_eq_ok_iff, pure_eq_ok_iff] at h
    obtain ⟨exprTokens, hexpr, rfl⟩ := h
    rw [Condition.pieces]
    exact .singleton ((Expr.spells_of_tokens hexpr).closed _ (by cases isNull <;> decide))
  | .inList expr [], _, h => by
    rw [Condition.conjuncts, Except.ok.injEq] at h
    rw [← h, Condition.pieces]
    exact .singleton (.keyword _ (by decide))
  | .inList expr (value :: values), _, h => by
    simp only [Condition.conjuncts, bind_eq_ok_iff, pure_eq_ok_iff] at h
    obtain ⟨exprTokens, hexpr, first, hfirst, others, hothers, rfl⟩ := h
    have hvalues : SpellsAll (first :: others) (value.pieces ++ Expr.listPieces values) :=
      .cons (Expr.spells_of_tokens hfirst) (Expr.spells_of_listTokens hothers)
    rw [Condition.pieces]
    exact .singleton (((Expr.spells_of_tokens hexpr).between _ (by decide)
      (hvalues.separated _ (by decide))).closed _ (by decide))
  | .between expr low high, _, h => by
    simp only [Condition.conjuncts, bind_eq_ok_iff, pure_eq_ok_iff] at h
    obtain ⟨exprTokens, hexpr, lowTokens, hlow, highTokens, hhigh, rfl⟩ := h
    rw [Condition.pieces]
    exact .singleton (((Expr.spells_of_tokens hexpr).between _ (by decide)
      (Expr.spells_of_tokens hlow)).between _ (by decide) (Expr.spells_of_tokens hhigh))
  | .startsWith expr lead, _, h => by
    simp only [Condition.conjuncts, bind_eq_ok_iff, pure_eq_ok_iff] at h
    obtain ⟨exprTokens, hexpr, leadTokens, hlead, rfl⟩ := h
    rw [Condition.pieces]
    have htested := (Expr.spells_of_tokens hexpr).fixed "starts_with(" (by decide)
    exact .singleton
      ((htested.between _ (by decide) (Expr.spells_of_tokens hlead)).closed _ (by decide))
  | .containsText expr needle, _, h => by
    simp only [Condition.conjuncts, bind_eq_ok_iff, pure_eq_ok_iff] at h
    obtain ⟨exprTokens, hexpr, needleTokens, hneedle, rfl⟩ := h
    rw [Condition.pieces]
    have htested := (Expr.spells_of_tokens hexpr).fixed "strpos(" (by decide)
    exact .singleton
      ((htested.between _ (by decide) (Expr.spells_of_tokens hneedle)).closed _ (by decide))
  | .hasKey column key, _, h => by
    simp only [Condition.conjuncts, bind_eq_ok_iff, pure_eq_ok_iff] at h
    obtain ⟨columnTokens, hcolumn, rfl⟩ := h
    rw [Condition.pieces]
    exact .singleton ((ColumnRef.spells_of_tokens hcolumn).between _ (by decide) (.literal key))
  | .exists query negated, _, h => by
    simp only [Condition.conjuncts, bind_eq_ok_iff, pure_eq_ok_iff] at h
    obtain ⟨queryTokens, hquery, rfl⟩ := h
    rw [Condition.pieces]
    exact .singleton ((Select.spells_of_tokens hquery).enclosed _ _ (by cases negated <;> decide)
      (by decide))
  | .raw text, _, h => by
    rw [Condition.conjuncts, Except.ok.injEq] at h
    rw [← h, Condition.pieces]
    exact .singleton (.raw text)

/-- The tokens of the parts of several conditions spell their pieces. -/
theorem Condition.spells_of_allConjuncts : ∀ {conditions : List Condition}
    {parts : List (List Token)}, Condition.allConjuncts conditions = .ok parts →
      SpellsAll parts (Condition.listPieces conditions)
  | [], _, h => by
    rw [Condition.allConjuncts, Except.ok.injEq] at h
    rw [← h, Condition.listPieces]
    exact .nil
  | condition :: rest, _, h => by
    simp only [Condition.allConjuncts, bind_eq_ok_iff, pure_eq_ok_iff] at h
    obtain ⟨parts, hparts, others, hrest, rfl⟩ := h
    rw [Condition.listPieces]
    exact (Condition.spells_of_conjuncts hparts).append (Condition.spells_of_allConjuncts hrest)

/-- The tokens of a list of conditions spell their pieces. -/
theorem Condition.spells_of_listTokens : ∀ {conditions : List Condition}
    {parts : List (List Token)}, Condition.listTokens conditions = .ok parts →
      SpellsAll parts (Condition.listPieces conditions)
  | [], _, h => by
    rw [Condition.listTokens, Except.ok.injEq] at h
    rw [← h, Condition.listPieces]
    exact .nil
  | condition :: rest, _, h => by
    simp only [Condition.listTokens, bind_eq_ok_iff, pure_eq_ok_iff] at h
    obtain ⟨parts, hparts, others, hrest, rfl⟩ := h
    rw [Condition.listPieces]
    exact .cons (Condition.spells_of_conjuncts hparts).conjunction
      (Condition.spells_of_listTokens hrest)

/-- The tokens of the rows of a selection spell their pieces. -/
theorem FromItem.spells_of_tokens : ∀ {item : FromItem} {tokens : List Token},
    item.tokens = .ok tokens → Spells tokens item.pieces
  | .table name alias?, _, h => by
    simp only [FromItem.tokens, bind_eq_ok_iff] at h
    obtain ⟨nameTokens, hname, hlabel⟩ := h
    rw [FromItem.pieces]
    exact spells_of_aliasedTokens hlabel (spells_of_nameTokens hname)
  | .subquery query label, _, h => by
    simp only [FromItem.tokens, bind_eq_ok_iff] at h
    obtain ⟨queryTokens, hquery, hlabel⟩ := h
    rw [FromItem.pieces]
    exact spells_of_aliasedTokens hlabel
      ((Select.spells_of_tokens hquery).enclosed _ _ (by decide) (by decide))
  | .unionAll sources label, _, h => by
    simp only [FromItem.tokens, bind_eq_ok_iff] at h
    obtain ⟨sourceTokens, hsources, hlabel⟩ := h
    rw [FromItem.pieces]
    exact spells_of_aliasedTokens hlabel
      ((spells_of_unionTokens hsources).enclosed _ _ (by decide) (by decide))

/-- The clause of the rows of a selection spells their pieces and delimits what it follows. -/
theorem FromItem.spells_of_clauseTokens : ∀ {item? : Option FromItem} {tokens : List Token},
    FromItem.clauseTokens item? = .ok tokens →
      Spells tokens (FromItem.clausePieces item?) ∧ Token.Delimited tokens
  | none, _, h => by
    rw [FromItem.clauseTokens, Except.ok.injEq] at h
    rw [← h, FromItem.clausePieces]
    exact ⟨.nil, trivial⟩
  | some item, _, h => by
    simp only [FromItem.clauseTokens, bind_eq_ok_iff, pure_eq_ok_iff] at h
    obtain ⟨itemTokens, hitem, rfl⟩ := h
    rw [FromItem.clausePieces]
    exact ⟨(FromItem.spells_of_tokens hitem).fixed _ (by decide), rfl⟩

/-- The clause of a condition spells its pieces and delimits what it follows. -/
theorem Condition.spells_of_clauseTokens : ∀ {condition? : Option Condition}
    {tokens : List Token}, Condition.clauseTokens condition? = .ok tokens →
      Spells tokens (Condition.clausePieces condition?) ∧ Token.Delimited tokens
  | none, _, h => by
    rw [Condition.clauseTokens, Except.ok.injEq] at h
    rw [← h, Condition.clausePieces]
    exact ⟨.nil, trivial⟩
  | some condition, _, h => by
    simp only [Condition.clauseTokens, bind_eq_ok_iff, pure_eq_ok_iff] at h
    obtain ⟨parts, hparts, rfl⟩ := h
    rw [Condition.clausePieces]
    exact ⟨(Condition.spells_of_conjuncts hparts).conjunction.fixed _ (by decide), rfl⟩

/-- The tokens of a selection spell its pieces. -/
theorem Select.spells_of_tokens : ∀ {select : Select} {tokens : List Token},
    select.tokens = .ok tokens → Spells tokens select.pieces
  | ⟨columns, from?, where?, order, limit?, offset?⟩, _, h => by
    simp only [Select.tokens, bind_eq_ok_iff, pure_eq_ok_iff] at h
    obtain ⟨columnTokens, hcolumns, fromTokens, hfrom, whereTokens, hwhere, orderTokens, horder,
      rfl⟩ := h
    have hcolumns := Projection.spells_of_listTokens hcolumns
    have hlist : Spells
        (if columnTokens.isEmpty then [.fixed "*"] else Token.separated ", " columnTokens)
        (Projection.listPieces columns) := by
      split
      · rename_i hempty
        rw [List.isEmpty_iff] at hempty
        rw [hempty] at hcolumns
        exact ⟨hcolumns.quoted, fun _ => ⟨.inl (by decide), trivial⟩, fun _ =>
          Token.fixedWithoutNul_nil.fixed (by decide)⟩
      · exact hcolumns.separated _ (by decide)
    have hrows := FromItem.spells_of_clauseTokens hfrom
    have hcondition := Condition.spells_of_clauseTokens hwhere
    have horder := (OrderTerm.spells_of_listTokens horder).clause " ORDER BY " (by decide)
    have hlimit := spells_countTokens " LIMIT " (by decide) limit?
    have hoffset := spells_countTokens " OFFSET " (by decide) offset?
    rw [Select.pieces]
    simpa using (((((hlist.fixed "SELECT " (by decide)).append hrows.1 hrows.2).append
      hcondition.1 hcondition.2).append horder.1 horder.2).append hlimit.1 hlimit.2).append
      hoffset.1 hoffset.2

end

/-- A condition writes its pieces. -/
theorem Condition.spells_of_tokens {condition : Condition} {tokens : List Token}
    (h : condition.tokens = .ok tokens) : Spells tokens condition.pieces := by
  simp only [Condition.tokens, bind_eq_ok_iff, pure_eq_ok_iff] at h
  obtain ⟨parts, hparts, rfl⟩ := h
  exact (Condition.spells_of_conjuncts hparts).conjunction

/-! ## Pieces of statements -/

/-- The pieces of a new row: its columns, its values and the statements that these read. -/
def Record.pieces (record : Record) : List Piece :=
  namePieces record.columns ++ Expr.listPieces (record.entries.map (·.2)) ++
    namePieces record.sources

/-- The pieces of an insert: table, row and returned columns. -/
def Insert.pieces (insert : Insert) : List Piece :=
  namePieces insert.table?.toList ++ insert.record?.toList.flatMap Record.pieces ++
    Projection.listPieces insert.returning

/-- The pieces of an assignment. -/
def Assignment.pieces (assignment : Assignment) : List Piece :=
  assignment.target.pieces ++ assignment.value.pieces

/-- The pieces of an update: table, assignments, the statements that it reads, condition and
returned columns. -/
def Update.pieces (update : Update) : List Piece :=
  namePieces update.table?.toList ++ update.assignments.flatMap Assignment.pieces ++
    namePieces update.allSources ++ Condition.clausePieces update.where? ++
    Projection.listPieces update.returning

/-- The pieces of a delete: table, condition and returned columns. -/
def Delete.pieces (delete : Delete) : List Piece :=
  namePieces delete.table?.toList ++ Condition.clausePieces delete.where? ++
    Projection.listPieces delete.returning

/-- The pieces of a statement. -/
def Statement.pieces : Statement → List Piece
  | .select s => s.pieces
  | .insert s => s.pieces
  | .update s => s.pieces
  | .delete s => s.pieces

/-- What is returned writes the pieces of its columns. -/
theorem spells_of_returningTokens {columns : List Projection} {tokens : List Token}
    (h : returningTokens columns = .ok tokens) :
    Spells tokens (Projection.listPieces columns) ∧ Token.Delimited tokens := by
  simp only [returningTokens, bind_eq_ok_iff, pure_eq_ok_iff] at h
  obtain ⟨parts, hparts, rfl⟩ := h
  exact (Projection.spells_of_listTokens hparts).clause _ (by decide)

/-- Sources write names. -/
theorem spells_of_sourcesTokens {sources : List String} {tokens : List Token}
    (h : sourcesTokens sources = .ok tokens) :
    Spells tokens (namePieces sources) ∧ Token.Delimited tokens := by
  simp only [sourcesTokens, bind_eq_ok_iff, pure_eq_ok_iff] at h
  obtain ⟨parts, hparts, rfl⟩ := h
  exact (spellsAll_of_mapM_nameTokens hparts).clause _ (by decide)

/-- A record writes its columns and the pieces of their values. -/
theorem Record.spells_of_tokens {record : Record} {tokens : List Token}
    (h : record.tokens = .ok tokens) : Spells tokens record.pieces ∧ Token.Delimited tokens := by
  rcases Record.tokens_cases h with
    ⟨hempty, rfl⟩ | ⟨_, values, rows, hnames, hvalues, rfl, hrows⟩
  · obtain ⟨entries⟩ := record
    obtain rfl : entries = [] := hempty
    exact ⟨.keyword _ (by decide), rfl⟩
  · simp only [namesTokens, bind_eq_ok_iff, pure_eq_ok_iff] at hnames
    obtain ⟨columns, hcolumns, rfl⟩ := hnames
    have hcolumns := (spellsAll_of_mapM_nameTokens hcolumns).separated "," (by decide)
    have hrow := Expr.spells_of_listTokens hvalues
    rw [Record.pieces, List.append_assoc]
    refine ⟨?_, rfl⟩
    rcases hrows with ⟨hsources, rfl⟩ | ⟨sources, hsources, rfl⟩
    · have hvalueTokens := (hrow.separated "," (by decide)).enclosed
        " VALUES (" ")" (by decide) (by decide)
      rw [hsources]
      simpa [namePieces] using (hcolumns.fixed " (" (by decide)).between ")"
        (by decide) hvalueTokens
    · have hsourceTokens := spells_of_sourcesTokens hsources
      have hvalueTokens := ((hrow.separated ", " (by decide)).fixed
        " SELECT " (by decide)).append hsourceTokens.1 hsourceTokens.2
      simpa using (hcolumns.fixed " (" (by decide)).between ")" (by decide) hvalueTokens

/-- An insert writes its table, its record and what it returns. -/
theorem Insert.spells_of_tokens {insert : Insert} {tokens : List Token}
    (h : insert.tokens = .ok tokens) : Spells tokens insert.pieces := by
  obtain ⟨table, record, name, row, columns, htable, hrecord, hname, hrow, hcolumns, rfl⟩ :=
    Insert.tokens_eq_ok h
  have hrow := Record.spells_of_tokens hrow
  have hreturning := spells_of_returningTokens hcolumns
  have htarget := (spells_of_nameTokens hname).fixed "INSERT INTO " (by decide)
  simpa [Insert.pieces, namePieces, htable, hrecord] using
    (htarget.append hrow.1 hrow.2).append hreturning.1 hreturning.2

/-- An assignment writes its target and its value. -/
theorem Assignment.spells_of_tokens {assignment : Assignment} {tokens : List Token}
    (h : assignment.tokens = .ok tokens) : Spells tokens assignment.pieces := by
  obtain ⟨target, value, htarget, hvalue, rfl⟩ := Assignment.tokens_eq_ok h
  exact (ColumnRef.spells_of_tokens htarget).between _ (by decide)
    (Expr.spells_of_tokens hvalue)

/-- An update writes its table and its clauses. -/
theorem Update.spells_of_tokens {update : Update} {tokens : List Token}
    (h : update.tokens = .ok tokens) : Spells tokens update.pieces := by
  obtain ⟨table, name, parts, sources, condition, columns, htable, hname, hparts, hsources,
    hcondition, hcolumns, rfl⟩ := Update.tokens_eq_ok h
  have htarget := (spells_of_nameTokens hname).fixed "UPDATE ONLY " (by decide)
  have hassigned := (SpellsAll.of_mapM hparts Assignment.spells_of_tokens).separated ", "
    (by decide)
  have hsources := spells_of_sourcesTokens hsources
  have hcondition := Condition.spells_of_clauseTokens hcondition
  have hreturning := spells_of_returningTokens hcolumns
  simpa [Update.pieces, namePieces, htable] using
    (((htarget.between " SET " (by decide) hassigned).append
      hsources.1 hsources.2).append hcondition.1 hcondition.2).append hreturning.1 hreturning.2

/-- A delete writes its table and its clauses. -/
theorem Delete.spells_of_tokens {delete : Delete} {tokens : List Token}
    (h : delete.tokens = .ok tokens) : Spells tokens delete.pieces := by
  obtain ⟨table, name, condition, columns, htable, hname, hcondition, hcolumns, rfl⟩ :=
    Delete.tokens_eq_ok h
  have htarget := (spells_of_nameTokens hname).fixed "DELETE FROM " (by decide)
  have hcondition := Condition.spells_of_clauseTokens hcondition
  have hreturning := spells_of_returningTokens hcolumns
  simpa [Delete.pieces, namePieces, htable] using
    (htarget.append hcondition.1 hcondition.2).append hreturning.1 hreturning.2

/-- A statement writes its pieces. -/
theorem Statement.spells_of_tokens {statement : Statement} {tokens : List Token}
    (h : statement.tokens = .ok tokens) : Spells tokens statement.pieces := by
  cases statement with
  | select s => exact Select.spells_of_tokens h
  | insert s => exact Insert.spells_of_tokens h
  | update s => exact Update.spells_of_tokens h
  | delete s => exact Delete.spells_of_tokens h

/-! ## Pieces of chains -/

namespace Chain

/-- The pieces of named statements; the first one has the given index. -/
def namedPieces (stem : String) : Nat → List Statement → List Piece
  | _, [] => []
  | index, statement :: rest =>
    .name (numberedName stem index) :: statement.pieces ++ namedPieces stem (index + 1) rest

/-- The pieces of a chain: each statement but the last one stands behind its name. -/
def pieces (chain : Chain) : List Piece :=
  namedPieces chain.stem 0 chain.statements.dropLast ++
    chain.statements.getLast?.toList.flatMap Statement.pieces

/-- The statements of a chain write their pieces behind their names. -/
theorem spells_of_namedTokens {stem : String} {index : Nat} {statements : List Statement}
    {parts : List (List Token)} (h : namedTokens stem index statements = .ok parts) :
    SpellsAll parts (namedPieces stem index statements) := by
  induction statements generalizing index parts with
  | nil =>
    rw [namedTokens, Except.ok.injEq] at h
    rw [← h, namedPieces]
    exact .nil
  | cons statement rest ih =>
    simp only [namedTokens, bind_eq_ok_iff, pure_eq_ok_iff] at h
    obtain ⟨name, hname, body, hbody, others, hrest, rfl⟩ := h
    rw [namedPieces]
    exact .cons (((spells_of_nameTokens hname).between _ (by decide)
      (Statement.spells_of_tokens hbody)).closed _ (by decide)) (ih hrest)

/-- A chain writes its pieces. -/
theorem spells_of_tokens {chain : Chain} {tokens : List Token}
    (h : chain.tokens = .ok tokens) : Spells tokens chain.pieces := by
  obtain ⟨named, body, own, hstatements, hown, hnamed⟩ := Chain.tokens_eq_ok h
  have hown := Statement.spells_of_tokens hown
  rw [Chain.pieces, hstatements, List.dropLast_concat, List.getLast?_concat, Option.toList_some,
    List.flatMap_singleton]
  rcases hnamed with ⟨rfl, rfl⟩ | ⟨parts, hparts, rfl⟩
  · exact hown
  · have hnames := (spells_of_namedTokens hparts).separated ", " (by decide)
    exact (hnames.fixed _ (by decide)).between _ (by decide) hown

end Chain

end RelationalQuery.Sql
