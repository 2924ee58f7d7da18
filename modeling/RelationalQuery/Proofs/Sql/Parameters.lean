import RelationalQuery.Proofs.Sql.Rendered

/-!
# Bound parameters of trees

The parameters that a tree binds are read off the tree alone, from left to right and without
rendering it.  Rendering then gives exactly these: no token list holds a parameter out of order,
twice, or not at all.

A membership test of an empty list binds nothing, since it is the constant false and the tested
expression is not written.

Main definitions:

- `Token.parameters` are the parameters of a token list in their order.
- `Expr.parameters`, `Condition.parameters`, `Select.parameters` and their companions are the bound
  parameters of trees.

Main results:

- `Expr.parameters_of_tokens`, `Condition.parameters_of_tokens`, `Select.parameters_of_tokens`,
  `Statement.parameters_of_tokens` and `Chain.parameters_of_tokens`: the tokens of a tree hold its
  bound parameters in their order.
-/

namespace RelationalQuery.Sql

/-! ## Parameters of token lists -/

namespace Token

/-- The parameter of a token. -/
def parameter? : Token → Option Parameter
  | .parameter value => some value
  | _ => none

/-- The parameters of tokens in their order. -/
def parameters (tokens : List Token) : List Parameter := tokens.filterMap parameter?

@[simp]
theorem parameters_nil : parameters [] = [] :=
  rfl

/-- Tokens hold their parameters in their order. -/
@[simp]
theorem parameters_append (left right : List Token) :
    parameters (left ++ right) = parameters left ++ parameters right := by
  simp [parameters]

/-- A fixed text holds no parameter. -/
@[simp]
theorem parameters_fixed_cons (text : String) (tokens : List Token) :
    parameters (.fixed text :: tokens) = parameters tokens :=
  rfl

@[simp]
theorem parameters_name_cons (identifier : Identifier) (tokens : List Token) :
    parameters (.name identifier :: tokens) = parameters tokens :=
  rfl

@[simp]
theorem parameters_literal_cons (text : String) (tokens : List Token) :
    parameters (.literal text :: tokens) = parameters tokens :=
  rfl

/-- The token of a parameter holds it. -/
@[simp]
theorem parameters_parameter_cons (value : Parameter) (tokens : List Token) :
    parameters (.parameter value :: tokens) = value :: parameters tokens :=
  rfl

/-- A separator binds nothing. -/
@[simp]
theorem parameters_separated (separator : String) (parts : List (List Token)) :
    parameters (separated separator parts) = parameters parts.flatten := by
  unfold separated
  induction parts with
  | nil => rfl
  | cons part rest ih =>
    cases rest with
    | nil => simp
    | cons next rest =>
      rw [List.intercalate_cons_cons, parameters_append, parameters_append, ih]
      simp

/-- The keyword and the commas of a clause hold no parameters. -/
@[simp]
theorem parameters_clause (keyword : String) (parts : List (List Token)) :
    parameters (clause keyword parts) = parameters parts.flatten := by
  unfold clause
  split
  · rename_i h
    rw [List.isEmpty_iff.1 h]
    rfl
  · simp

end Token

/-- The words between the parts of a conjunction hold no parameters. -/
@[simp]
theorem parameters_conjunction (parts : List (List Token)) :
    Token.parameters (conjunction parts) = Token.parameters parts.flatten := by
  unfold conjunction
  split
  · rename_i h
    rw [List.isEmpty_iff.1 h]
    rfl
  · simp

/-- Neither do those of a disjunction. -/
@[simp]
theorem parameters_disjunction (parts : List (List Token)) :
    Token.parameters (disjunction parts) = Token.parameters parts.flatten := by
  unfold disjunction
  split
  · rename_i h
    rw [List.isEmpty_iff.1 h]
    rfl
  · simp

/-! ## Parts that bind nothing of their own -/

/-- A name holds no parameters. -/
theorem parameters_of_nameTokens {name : String} {tokens : List Token}
    (h : nameTokens name = .ok tokens) : Token.parameters tokens = [] := by
  simp only [nameTokens, bind_eq_ok_iff, pure_eq_ok_iff] at h
  obtain ⟨identifier, -, rfl⟩ := h
  rfl

/-- Neither does a qualified name. -/
theorem parameters_of_qualifiedTokens {qualifier? : Option String} {name : String}
    {tokens : List Token} (h : qualifiedTokens qualifier? name = .ok tokens) :
    Token.parameters tokens = [] := by
  unfold qualifiedTokens at h
  cases qualifier? with
  | none => exact parameters_of_nameTokens h
  | some qualifier =>
    simp only [bind_eq_ok_iff, pure_eq_ok_iff] at h
    obtain ⟨front, hfront, back, hback, rfl⟩ := h
    simp [parameters_of_nameTokens hfront, parameters_of_nameTokens hback]

namespace ColumnRef

/-- Keys are literals, not parameters. -/
@[simp]
theorem parameters_arrowTokens (path : List String) :
    Token.parameters (arrowTokens path) = [] := by
  induction path with
  | nil => rfl
  | cons key rest ih =>
    cases rest with
    | nil => rfl
    | cons next rest => simpa [arrowTokens] using ih

/-- A column holds no parameters. -/
theorem parameters_of_tokens {column : ColumnRef} {tokens : List Token}
    (h : column.tokens = .ok tokens) : Token.parameters tokens = [] := by
  simp only [ColumnRef.tokens, bind_eq_ok_iff, pure_eq_ok_iff] at h
  obtain ⟨front, hfront, rfl⟩ := h
  rw [Token.parameters_append, parameters_of_qualifiedTokens hfront, List.nil_append]
  induction column.path with
  | nil => rfl
  | cons key rest ih => simpa using ih

theorem parameters_of_textTokens {column : ColumnRef} {tokens : List Token}
    (h : column.textTokens = .ok tokens) : Token.parameters tokens = [] := by
  simp only [textTokens, bind_eq_ok_iff, pure_eq_ok_iff] at h
  obtain ⟨front, hfront, rfl⟩ := h
  simp [parameters_of_qualifiedTokens hfront]

/-- An operation binds its operand and nothing else. -/
theorem parameters_of_operationTokens {target : ColumnRef} {operator : ArithmeticOperator}
    {operand : Parameter} {numericType : String} {tokens : List Token}
    (h : target.operationTokens operator operand numericType = .ok tokens) :
    Token.parameters tokens = [operand] := by
  unfold operationTokens at h
  split at h
  · simp only [bind_eq_ok_iff, pure_eq_ok_iff] at h
    obtain ⟨column, hcolumn, rfl⟩ := h
    simp [parameters_of_tokens hcolumn]
  · simp only [bind_eq_ok_iff, pure_eq_ok_iff] at h
    obtain ⟨column, hcolumn, rfl⟩ := h
    simp [parameters_of_textTokens hcolumn]

end ColumnRef

/-- A name of its own adds no parameter to a part. -/
theorem parameters_of_aliasedTokens {part tokens : List Token} {alias? : Option String}
    (h : aliasedTokens part alias? = .ok tokens) :
    Token.parameters tokens = Token.parameters part := by
  unfold aliasedTokens at h
  cases alias? with
  | none => rw [pure_eq_ok_iff.1 h]
  | some label =>
    simp only [bind_eq_ok_iff, pure_eq_ok_iff] at h
    obtain ⟨name, hname, rfl⟩ := h
    simp [parameters_of_nameTokens hname]

/-- Parts that each bind nothing bind nothing together. -/
theorem parameters_flatten_eq_nil {parts : List (List Token)}
    (h : ∀ part ∈ parts, Token.parameters part = []) : Token.parameters parts.flatten = [] := by
  induction parts with
  | nil => rfl
  | cons part rest ih =>
    rw [List.flatten_cons, Token.parameters_append, h part (by simp), List.nil_append]
    exact ih fun other hother => h other (by simp [hother])

/-- Names bind nothing. -/
theorem parameters_of_mapM_nameTokens {names : List String} {parts : List (List Token)}
    (h : names.mapM nameTokens = .ok parts) : Token.parameters parts.flatten = [] := by
  apply parameters_flatten_eq_nil
  intro part hpart
  obtain ⟨name, -, hname⟩ := exists_mem_of_forall₂ (forall₂_of_mapM_eq_ok h) hpart
  exact parameters_of_nameTokens hname

/-- The names of a union hold no parameters. -/
theorem parameters_of_unionTokens {sources : List String} {tokens : List Token}
    (h : unionTokens sources = .ok tokens) : Token.parameters tokens = [] := by
  simp only [unionTokens, bind_eq_ok_iff, pure_eq_ok_iff] at h
  obtain ⟨parts, hparts, rfl⟩ := h
  rw [Token.parameters_separated]
  apply parameters_flatten_eq_nil
  intro part hpart
  obtain ⟨source, -, hsource⟩ := exists_mem_of_forall₂ (forall₂_of_mapM_eq_ok hparts) hpart
  simp only [bind_eq_ok_iff, pure_eq_ok_iff] at hsource
  obtain ⟨name, hname, rfl⟩ := hsource
  simp [parameters_of_nameTokens hname]

/-! ## Bound parameters of expressions, conditions and selections -/

/-- The bound number of a limit or an offset. -/
def countParameters (count? : Option UInt64) : List Parameter :=
  count?.toList.map fun count => .plain (Json.ofUInt64 count)

/-- A count is a parameter if there is one. -/
@[simp]
theorem parameters_countTokens (keyword : String) (count? : Option UInt64) :
    Token.parameters (countTokens keyword count?) = countParameters count? := by
  cases count? <;> rfl

mutual

/-- The parameters that an expression binds, from left to right. -/
def Expr.parameters : Expr → List Parameter
  | .null => []
  | .parameter value => [value]
  | .column _ => []
  | .columnText _ => []
  | .reference _ _ => []
  | .operation _ _ operand _ => [operand]
  | .cast value _ => value.parameters
  | .object entries => Expr.entryParameters entries
  | .aggregate value order => value.parameters ++ OrderTerm.listParameters order
  | .merge _ entries => Expr.entryParameters entries
  | .subquery query => query.parameters
  | .raw _ => []

/-- The parameters that the values of entries bind. -/
def Expr.entryParameters : List (String × Expr) → List Parameter
  | [] => []
  | (_, value) :: rest => value.parameters ++ Expr.entryParameters rest

/-- The parameters that a list of expressions binds. -/
def Expr.listParameters : List Expr → List Parameter
  | [] => []
  | expr :: rest => expr.parameters ++ Expr.listParameters rest

/-- The parameters that the keys of an order bind. -/
def OrderTerm.listParameters : List OrderTerm → List Parameter
  | [] => []
  | ⟨expr, _⟩ :: rest => expr.parameters ++ OrderTerm.listParameters rest

/-- The parameters that the columns of a result bind. -/
def Projection.listParameters : List Projection → List Parameter
  | [] => []
  | ⟨expr, _⟩ :: rest => expr.parameters ++ Projection.listParameters rest

/-- The parameters that a condition binds, from left to right. -/
def Condition.parameters : Condition → List Parameter
  | .and conditions => Condition.listParameters conditions
  | .or conditions => Condition.listParameters conditions
  | .not condition => condition.parameters
  | .compare left _ right => left.parameters ++ right.parameters
  | .nullCheck expr _ => expr.parameters
  | .inList _ [] => []
  | .inList expr (value :: values) =>
    expr.parameters ++ value.parameters ++ Expr.listParameters values
  | .between expr low high => expr.parameters ++ low.parameters ++ high.parameters
  | .startsWith expr lead => expr.parameters ++ lead.parameters
  | .containsText expr needle => expr.parameters ++ needle.parameters
  | .hasKey _ _ => []
  | .exists query _ => query.parameters
  | .raw _ => []

/-- The parameters that a list of conditions binds. -/
def Condition.listParameters : List Condition → List Parameter
  | [] => []
  | condition :: rest => condition.parameters ++ Condition.listParameters rest

/-- The parameters that the rows of a selection bind. -/
def FromItem.parameters : FromItem → List Parameter
  | .table _ _ => []
  | .subquery query _ => query.parameters
  | .unionAll _ _ => []

/-- The parameters that the rows of a selection bind, if it has rows. -/
def FromItem.clauseParameters : Option FromItem → List Parameter
  | none => []
  | some item => item.parameters

/-- The parameters that a condition binds, if there is one. -/
def Condition.clauseParameters : Option Condition → List Parameter
  | none => []
  | some condition => condition.parameters

/-- The parameters that a selection binds: columns, rows, condition, order and counts. -/
def Select.parameters : Select → List Parameter
  | ⟨columns, from?, where?, order, limit?, offset?⟩ =>
    Projection.listParameters columns ++ FromItem.clauseParameters from? ++
      Condition.clauseParameters where? ++ OrderTerm.listParameters order ++
      countParameters limit? ++ countParameters offset?

end

/-! ## Rendering binds exactly the parameters of the tree -/

mutual

/-- The tokens of an expression hold its bound parameters in their order. -/
theorem Expr.parameters_of_tokens : ∀ {expr : Expr} {tokens : List Token},
    expr.tokens = .ok tokens → Token.parameters tokens = expr.parameters
  | .null, _, h => by
    rw [Expr.tokens, Except.ok.injEq] at h
    rw [← h]
    rfl
  | .parameter value, _, h => by
    rw [Expr.tokens, Except.ok.injEq] at h
    rw [← h]
    rfl
  | .column column, _, h => by
    rw [Expr.tokens] at h
    rw [ColumnRef.parameters_of_tokens h, Expr.parameters]
  | .columnText column, _, h => by
    rw [Expr.tokens] at h
    rw [ColumnRef.parameters_of_textTokens h, Expr.parameters]
  | .reference source column, _, h => by
    rw [Expr.tokens] at h
    rw [parameters_of_qualifiedTokens h, Expr.parameters]
  | .operation target operator operand numericType, _, h => by
    rw [Expr.tokens] at h
    rw [ColumnRef.parameters_of_operationTokens h, Expr.parameters]
  | .cast value type, _, h => by
    simp only [Expr.tokens, bind_eq_ok_iff, pure_eq_ok_iff] at h
    obtain ⟨valueTokens, hvalue, rfl⟩ := h
    simp [Expr.parameters, Expr.parameters_of_tokens hvalue]
  | .object entries, _, h => by
    simp only [Expr.tokens, bind_eq_ok_iff, pure_eq_ok_iff] at h
    obtain ⟨entryTokens, hentries, rfl⟩ := h
    simp [Expr.parameters, Expr.parameters_of_entryTokens hentries]
  | .aggregate value order, _, h => by
    simp only [Expr.tokens, bind_eq_ok_iff, pure_eq_ok_iff] at h
    obtain ⟨valueTokens, hvalue, orderTokens, horder, rfl⟩ := h
    simp [Expr.parameters, Expr.parameters_of_tokens hvalue,
      OrderTerm.parameters_of_listTokens horder]
  | .merge target entries, _, h => by
    simp only [Expr.tokens, bind_eq_ok_iff, pure_eq_ok_iff] at h
    obtain ⟨targetTokens, htarget, entryTokens, hentries, rfl⟩ := h
    simp [Expr.parameters, ColumnRef.parameters_of_tokens htarget,
      Expr.parameters_of_entryTokens hentries]
  | .subquery query, _, h => by
    simp only [Expr.tokens, bind_eq_ok_iff, pure_eq_ok_iff] at h
    obtain ⟨queryTokens, hquery, rfl⟩ := h
    simp [Expr.parameters, Select.parameters_of_tokens hquery]
  | .raw text, _, h => by
    rw [Expr.tokens, Except.ok.injEq] at h
    rw [← h]
    rfl

/-- The tokens of entries hold the bound parameters of their values. -/
theorem Expr.parameters_of_entryTokens : ∀ {entries : List (String × Expr)}
    {parts : List (List Token)}, Expr.entryTokens entries = .ok parts →
      Token.parameters parts.flatten = Expr.entryParameters entries
  | [], _, h => by
    rw [Expr.entryTokens, Except.ok.injEq] at h
    rw [← h]
    rfl
  | (key, value) :: rest, _, h => by
    simp only [Expr.entryTokens, bind_eq_ok_iff, pure_eq_ok_iff] at h
    obtain ⟨valueTokens, hvalue, others, hrest, rfl⟩ := h
    simp [Expr.entryParameters, Expr.parameters_of_tokens hvalue,
      Expr.parameters_of_entryTokens hrest]

/-- The tokens of a list of expressions hold their bound parameters. -/
theorem Expr.parameters_of_listTokens : ∀ {exprs : List Expr} {parts : List (List Token)},
    Expr.listTokens exprs = .ok parts → Token.parameters parts.flatten = Expr.listParameters exprs
  | [], _, h => by
    rw [Expr.listTokens, Except.ok.injEq] at h
    rw [← h]
    rfl
  | expr :: rest, _, h => by
    simp only [Expr.listTokens, bind_eq_ok_iff, pure_eq_ok_iff] at h
    obtain ⟨exprTokens, hexpr, others, hrest, rfl⟩ := h
    simp [Expr.listParameters, Expr.parameters_of_tokens hexpr,
      Expr.parameters_of_listTokens hrest]

/-- The tokens of an order hold the bound parameters of its keys. -/
theorem OrderTerm.parameters_of_listTokens : ∀ {order : List OrderTerm}
    {parts : List (List Token)}, OrderTerm.listTokens order = .ok parts →
      Token.parameters parts.flatten = OrderTerm.listParameters order
  | [], _, h => by
    rw [OrderTerm.listTokens, Except.ok.injEq] at h
    rw [← h]
    rfl
  | ⟨expr, direction⟩ :: rest, _, h => by
    simp only [OrderTerm.listTokens, bind_eq_ok_iff, pure_eq_ok_iff] at h
    obtain ⟨exprTokens, hexpr, others, hrest, rfl⟩ := h
    simp [OrderTerm.listParameters, Expr.parameters_of_tokens hexpr,
      OrderTerm.parameters_of_listTokens hrest]

/-- The tokens of the columns of a result hold their bound parameters. -/
theorem Projection.parameters_of_listTokens : ∀ {columns : List Projection}
    {parts : List (List Token)}, Projection.listTokens columns = .ok parts →
      Token.parameters parts.flatten = Projection.listParameters columns
  | [], _, h => by
    rw [Projection.listTokens, Except.ok.injEq] at h
    rw [← h]
    rfl
  | ⟨expr, alias?⟩ :: rest, _, h => by
    simp only [Projection.listTokens, bind_eq_ok_iff, pure_eq_ok_iff] at h
    obtain ⟨exprTokens, hexpr, column, hcolumn, others, hrest, rfl⟩ := h
    simp [Projection.listParameters, parameters_of_aliasedTokens hcolumn,
      Expr.parameters_of_tokens hexpr, Projection.parameters_of_listTokens hrest]

/-- The tokens of the parts of a condition hold its bound parameters in their order. -/
theorem Condition.parameters_of_conjuncts : ∀ {condition : Condition}
    {parts : List (List Token)}, condition.conjuncts = .ok parts →
      Token.parameters parts.flatten = condition.parameters
  | .and conditions, _, h => by
    rw [Condition.conjuncts] at h
    rw [Condition.parameters_of_allConjuncts h, Condition.parameters]
  | .or conditions, _, h => by
    simp only [Condition.conjuncts, bind_eq_ok_iff, pure_eq_ok_iff] at h
    obtain ⟨inner, hinner, rfl⟩ := h
    simp [Condition.parameters, Condition.parameters_of_listTokens hinner]
  | .not condition, _, h => by
    simp only [Condition.conjuncts, bind_eq_ok_iff, pure_eq_ok_iff] at h
    obtain ⟨inner, hinner, rfl⟩ := h
    simp [Condition.parameters, Condition.parameters_of_conjuncts hinner]
  | .compare left comparison right, _, h => by
    simp only [Condition.conjuncts, bind_eq_ok_iff, pure_eq_ok_iff] at h
    obtain ⟨leftTokens, hleft, rightTokens, hright, rfl⟩ := h
    simp [Condition.parameters, Expr.parameters_of_tokens hleft, Expr.parameters_of_tokens hright]
  | .nullCheck expr isNull, _, h => by
    simp only [Condition.conjuncts, bind_eq_ok_iff, pure_eq_ok_iff] at h
    obtain ⟨exprTokens, hexpr, rfl⟩ := h
    simp [Condition.parameters, Expr.parameters_of_tokens hexpr]
  | .inList expr [], _, h => by
    rw [Condition.conjuncts, Except.ok.injEq] at h
    rw [← h]
    rfl
  | .inList expr (value :: values), _, h => by
    simp only [Condition.conjuncts, bind_eq_ok_iff, pure_eq_ok_iff] at h
    obtain ⟨exprTokens, hexpr, first, hfirst, others, hothers, rfl⟩ := h
    simp [Condition.parameters, Expr.parameters_of_tokens hexpr, Expr.parameters_of_tokens hfirst,
      Expr.parameters_of_listTokens hothers]
  | .between expr low high, _, h => by
    simp only [Condition.conjuncts, bind_eq_ok_iff, pure_eq_ok_iff] at h
    obtain ⟨exprTokens, hexpr, lowTokens, hlow, highTokens, hhigh, rfl⟩ := h
    simp [Condition.parameters, Expr.parameters_of_tokens hexpr, Expr.parameters_of_tokens hlow,
      Expr.parameters_of_tokens hhigh]
  | .startsWith expr lead, _, h => by
    simp only [Condition.conjuncts, bind_eq_ok_iff, pure_eq_ok_iff] at h
    obtain ⟨exprTokens, hexpr, leadTokens, hlead, rfl⟩ := h
    simp [Condition.parameters, Expr.parameters_of_tokens hexpr, Expr.parameters_of_tokens hlead]
  | .containsText expr needle, _, h => by
    simp only [Condition.conjuncts, bind_eq_ok_iff, pure_eq_ok_iff] at h
    obtain ⟨exprTokens, hexpr, needleTokens, hneedle, rfl⟩ := h
    simp [Condition.parameters, Expr.parameters_of_tokens hexpr, Expr.parameters_of_tokens hneedle]
  | .hasKey column key, _, h => by
    simp only [Condition.conjuncts, bind_eq_ok_iff, pure_eq_ok_iff] at h
    obtain ⟨columnTokens, hcolumn, rfl⟩ := h
    simp [Condition.parameters, ColumnRef.parameters_of_tokens hcolumn]
  | .exists query negated, _, h => by
    simp only [Condition.conjuncts, bind_eq_ok_iff, pure_eq_ok_iff] at h
    obtain ⟨queryTokens, hquery, rfl⟩ := h
    simp [Condition.parameters, Select.parameters_of_tokens hquery]
  | .raw text, _, h => by
    rw [Condition.conjuncts, Except.ok.injEq] at h
    rw [← h]
    rfl

/-- The tokens of the parts of several conditions hold their bound parameters. -/
theorem Condition.parameters_of_allConjuncts : ∀ {conditions : List Condition}
    {parts : List (List Token)}, Condition.allConjuncts conditions = .ok parts →
      Token.parameters parts.flatten = Condition.listParameters conditions
  | [], _, h => by
    rw [Condition.allConjuncts, Except.ok.injEq] at h
    rw [← h]
    rfl
  | condition :: rest, _, h => by
    simp only [Condition.allConjuncts, bind_eq_ok_iff, pure_eq_ok_iff] at h
    obtain ⟨parts, hparts, others, hrest, rfl⟩ := h
    simp only [List.flatten_append, Token.parameters_append, Condition.listParameters,
      Condition.parameters_of_conjuncts hparts, Condition.parameters_of_allConjuncts hrest]

/-- The tokens of a list of conditions hold their bound parameters. -/
theorem Condition.parameters_of_listTokens : ∀ {conditions : List Condition}
    {parts : List (List Token)}, Condition.listTokens conditions = .ok parts →
      Token.parameters parts.flatten = Condition.listParameters conditions
  | [], _, h => by
    rw [Condition.listTokens, Except.ok.injEq] at h
    rw [← h]
    rfl
  | condition :: rest, _, h => by
    simp only [Condition.listTokens, bind_eq_ok_iff, pure_eq_ok_iff] at h
    obtain ⟨parts, hparts, others, hrest, rfl⟩ := h
    simp only [List.flatten_cons, Token.parameters_append, parameters_conjunction,
      Condition.listParameters, Condition.parameters_of_conjuncts hparts,
      Condition.parameters_of_listTokens hrest]

/-- The tokens of the rows of a selection hold their bound parameters. -/
theorem FromItem.parameters_of_tokens : ∀ {item : FromItem} {tokens : List Token},
    item.tokens = .ok tokens → Token.parameters tokens = item.parameters
  | .table name alias?, _, h => by
    simp only [FromItem.tokens, bind_eq_ok_iff] at h
    obtain ⟨nameTokens, hname, hlabel⟩ := h
    rw [parameters_of_aliasedTokens hlabel, parameters_of_nameTokens hname, FromItem.parameters]
  | .subquery query label, _, h => by
    simp only [FromItem.tokens, bind_eq_ok_iff] at h
    obtain ⟨queryTokens, hquery, hlabel⟩ := h
    rw [parameters_of_aliasedTokens hlabel]
    simp [FromItem.parameters, Select.parameters_of_tokens hquery]
  | .unionAll sources label, _, h => by
    simp only [FromItem.tokens, bind_eq_ok_iff] at h
    obtain ⟨sourceTokens, hsources, hlabel⟩ := h
    rw [parameters_of_aliasedTokens hlabel]
    simp [FromItem.parameters, parameters_of_unionTokens hsources]

/-- The clause of the rows of a selection holds their bound parameters. -/
theorem FromItem.parameters_of_clauseTokens : ∀ {item? : Option FromItem} {tokens : List Token},
    FromItem.clauseTokens item? = .ok tokens →
      Token.parameters tokens = FromItem.clauseParameters item?
  | none, _, h => by
    rw [FromItem.clauseTokens, Except.ok.injEq] at h
    rw [← h]
    rfl
  | some item, _, h => by
    simp only [FromItem.clauseTokens, bind_eq_ok_iff, pure_eq_ok_iff] at h
    obtain ⟨itemTokens, hitem, rfl⟩ := h
    simp [FromItem.clauseParameters, FromItem.parameters_of_tokens hitem]

/-- The clause of a condition holds its bound parameters. -/
theorem Condition.parameters_of_clauseTokens : ∀ {condition? : Option Condition}
    {tokens : List Token}, Condition.clauseTokens condition? = .ok tokens →
      Token.parameters tokens = Condition.clauseParameters condition?
  | none, _, h => by
    rw [Condition.clauseTokens, Except.ok.injEq] at h
    rw [← h]
    rfl
  | some condition, _, h => by
    simp only [Condition.clauseTokens, bind_eq_ok_iff, pure_eq_ok_iff] at h
    obtain ⟨parts, hparts, rfl⟩ := h
    simp [Condition.clauseParameters, Condition.parameters_of_conjuncts hparts]

/-- The tokens of a selection hold its bound parameters in their order. -/
theorem Select.parameters_of_tokens : ∀ {select : Select} {tokens : List Token},
    select.tokens = .ok tokens → Token.parameters tokens = select.parameters
  | ⟨columns, from?, where?, order, limit?, offset?⟩, _, h => by
    simp only [Select.tokens, bind_eq_ok_iff, pure_eq_ok_iff] at h
    obtain ⟨columnTokens, hcolumns, fromTokens, hfrom, whereTokens, hwhere, orderTokens, horder,
      rfl⟩ := h
    have hlist : Token.parameters
        (if columnTokens.isEmpty then [.fixed "*"] else Token.separated ", " columnTokens) =
          Projection.listParameters columns := by
      rw [← Projection.parameters_of_listTokens hcolumns]
      split
      · rename_i hempty
        rw [List.isEmpty_iff.1 hempty]
        rfl
      · simp
    simp only [Select.parameters, List.cons_append, Token.parameters_fixed_cons,
      Token.parameters_append, hlist, FromItem.parameters_of_clauseTokens hfrom,
      Condition.parameters_of_clauseTokens hwhere, Token.parameters_clause,
      OrderTerm.parameters_of_listTokens horder, parameters_countTokens]

end

/-- A condition holds the parameters of its expressions, in their order. -/
theorem Condition.parameters_of_tokens {condition : Condition} {tokens : List Token}
    (h : condition.tokens = .ok tokens) : Token.parameters tokens = condition.parameters := by
  simp only [Condition.tokens, bind_eq_ok_iff, pure_eq_ok_iff] at h
  obtain ⟨parts, hparts, rfl⟩ := h
  rw [parameters_conjunction, Condition.parameters_of_conjuncts hparts]

/-! ## Bound parameters of statements -/

/-- The parameters that the values of a new row bind. -/
def Record.parameters (record : Record) : List Parameter := Expr.entryParameters record.entries

/-- The parameters that an insert binds: values, then returned columns. -/
def Insert.parameters (insert : Insert) : List Parameter :=
  (insert.record?.toList.flatMap Record.parameters) ++ Projection.listParameters insert.returning

/-- The parameters that an update binds: new values, then condition, then returned columns. -/
def Update.parameters (update : Update) : List Parameter :=
  (update.assignments.flatMap fun assignment => assignment.value.parameters) ++
    Condition.clauseParameters update.where? ++ Projection.listParameters update.returning

/-- The parameters that a delete binds: condition, then returned columns. -/
def Delete.parameters (delete : Delete) : List Parameter :=
  Condition.clauseParameters delete.where? ++ Projection.listParameters delete.returning

/-- The parameters that a statement binds. -/
def Statement.parameters : Statement → List Parameter
  | .select s => s.parameters
  | .insert s => s.parameters
  | .update s => s.parameters
  | .delete s => s.parameters

/-- The parameters that a chain binds, statement after statement. -/
def Chain.parameters (chain : Chain) : List Parameter :=
  chain.statements.flatMap Statement.parameters

/-- What is returned holds the parameters of its columns. -/
theorem parameters_of_returningTokens {columns : List Projection} {tokens : List Token}
    (h : returningTokens columns = .ok tokens) :
    Token.parameters tokens = Projection.listParameters columns := by
  simp only [returningTokens, bind_eq_ok_iff, pure_eq_ok_iff] at h
  obtain ⟨parts, hparts, rfl⟩ := h
  rw [Token.parameters_clause, Projection.parameters_of_listTokens hparts]

/-- The names of sources hold no parameters. -/
theorem parameters_of_sourcesTokens {sources : List String} {tokens : List Token}
    (h : sourcesTokens sources = .ok tokens) : Token.parameters tokens = [] := by
  simp only [sourcesTokens, bind_eq_ok_iff, pure_eq_ok_iff] at h
  obtain ⟨parts, hparts, rfl⟩ := h
  rw [Token.parameters_clause, parameters_of_mapM_nameTokens hparts]

theorem parameters_of_namesTokens {separator : String} {names : List String} {tokens : List Token}
    (h : namesTokens separator names = .ok tokens) : Token.parameters tokens = [] := by
  simp only [namesTokens, bind_eq_ok_iff, pure_eq_ok_iff] at h
  obtain ⟨parts, hparts, rfl⟩ := h
  rw [Token.parameters_separated, parameters_of_mapM_nameTokens hparts]

/-- Entries hold the parameters of their values. -/
theorem Expr.entryParameters_eq_listParameters (entries : List (String × Expr)) :
    Expr.entryParameters entries = Expr.listParameters (entries.map (·.2)) := by
  induction entries with
  | nil => rfl
  | cons entry rest ih =>
    obtain ⟨key, value⟩ := entry
    rw [Expr.entryParameters, List.map_cons, Expr.listParameters, ih]

/-- The values of a new row are written in one place, whether they are given or selected. -/
theorem Record.parameters_of_tokens {record : Record} {tokens : List Token}
    (h : record.tokens = .ok tokens) : Token.parameters tokens = record.parameters := by
  rw [Record.parameters, Expr.entryParameters_eq_listParameters]
  rcases Record.tokens_cases h with
    ⟨hempty, rfl⟩ | ⟨columns, values, rows, hcolumns, hvalues, rfl, hrows⟩
  · rw [hempty]
    rfl
  · have hnames := parameters_of_namesTokens hcolumns
    have hvalues := Expr.parameters_of_listTokens hvalues
    rcases hrows with ⟨-, rfl⟩ | ⟨sources, hsources, rfl⟩
    · simp [hnames, hvalues]
    · simp [hnames, hvalues, parameters_of_sourcesTokens hsources]

/-- An insert holds the parameters of its record, and then those of what it returns. -/
theorem Insert.parameters_of_tokens {insert : Insert} {tokens : List Token}
    (h : insert.tokens = .ok tokens) : Token.parameters tokens = insert.parameters := by
  obtain ⟨table, record, name, row, columns, -, hrecord, hname, hrow, hcolumns, rfl⟩ :=
    Insert.tokens_eq_ok h
  simp [Insert.parameters, hrecord, parameters_of_nameTokens hname,
    Record.parameters_of_tokens hrow, parameters_of_returningTokens hcolumns]

/-- Assignments hold the parameters of what they assign. -/
theorem parameters_of_assignmentTokens {assignments : List Assignment} {parts : List (List Token)}
    (h : assignments.mapM Assignment.tokens = .ok parts) :
    Token.parameters parts.flatten =
      assignments.flatMap fun assignment => assignment.value.parameters := by
  induction assignments generalizing parts with
  | nil =>
    rw [List.mapM_nil, pure_eq_ok_iff] at h
    rw [← h]
    rfl
  | cons assignment rest ih =>
    rw [List.mapM_cons] at h
    simp only [bind_eq_ok_iff, pure_eq_ok_iff] at h
    obtain ⟨_, hassignment, others, hrest, rfl⟩ := h
    obtain ⟨target, value, htarget, hvalue, rfl⟩ := Assignment.tokens_eq_ok hassignment
    simp [ColumnRef.parameters_of_tokens htarget, Expr.parameters_of_tokens hvalue, ih hrest]

/-- An update holds the parameters of its assignments, its condition and what it returns. -/
theorem Update.parameters_of_tokens {update : Update} {tokens : List Token}
    (h : update.tokens = .ok tokens) : Token.parameters tokens = update.parameters := by
  obtain ⟨table, name, parts, sources, condition, columns, -, hname, hparts, hsources, hcondition,
    hcolumns, rfl⟩ := Update.tokens_eq_ok h
  simp [Update.parameters, parameters_of_nameTokens hname,
    parameters_of_assignmentTokens hparts, parameters_of_sourcesTokens hsources,
    Condition.parameters_of_clauseTokens hcondition, parameters_of_returningTokens hcolumns]

/-- A delete holds the parameters of its condition and of what it returns. -/
theorem Delete.parameters_of_tokens {delete : Delete} {tokens : List Token}
    (h : delete.tokens = .ok tokens) : Token.parameters tokens = delete.parameters := by
  obtain ⟨table, name, condition, columns, -, hname, hcondition, hcolumns, rfl⟩ :=
    Delete.tokens_eq_ok h
  simp [Delete.parameters, parameters_of_nameTokens hname,
    Condition.parameters_of_clauseTokens hcondition, parameters_of_returningTokens hcolumns]

/-- A statement holds its parameters in their order. -/
theorem Statement.parameters_of_tokens {statement : Statement} {tokens : List Token}
    (h : statement.tokens = .ok tokens) : Token.parameters tokens = statement.parameters := by
  cases statement with
  | select s => exact Select.parameters_of_tokens h
  | insert s => exact Insert.parameters_of_tokens h
  | update s => exact Update.parameters_of_tokens h
  | delete s => exact Delete.parameters_of_tokens h

/-! ## Bound parameters of chains -/

namespace Chain

/-- The named statements of a chain hold their bound parameters one after the other, whatever their
names are. -/
theorem parameters_of_namedTokens {stem : String} {index : Nat} {statements : List Statement}
    {parts : List (List Token)} (h : namedTokens stem index statements = .ok parts) :
    Token.parameters parts.flatten = statements.flatMap Statement.parameters := by
  induction statements generalizing index parts with
  | nil =>
    rw [namedTokens, Except.ok.injEq] at h
    rw [← h]
    rfl
  | cons statement rest ih =>
    simp only [namedTokens, bind_eq_ok_iff, pure_eq_ok_iff] at h
    obtain ⟨name, hname, body, hbody, others, hrest, rfl⟩ := h
    simp [parameters_of_nameTokens hname, Statement.parameters_of_tokens hbody, ih hrest]

/-- A chain holds the parameters of its statements, one statement after the other. -/
theorem parameters_of_tokens {chain : Chain} {tokens : List Token}
    (h : chain.tokens = .ok tokens) : Token.parameters tokens = chain.parameters := by
  obtain ⟨named, body, own, hstatements, hown, hnamed⟩ := Chain.tokens_eq_ok h
  rw [Chain.parameters, hstatements, List.flatMap_append, List.flatMap_singleton]
  rcases hnamed with ⟨rfl, rfl⟩ | ⟨parts, hparts, rfl⟩
  · exact Statement.parameters_of_tokens hown
  · simp [parameters_of_namedTokens hparts, Statement.parameters_of_tokens hown]

end Chain

/-! ## Lists of parts -/

/-- The parameters of a list are those of its members. -/
theorem Expr.listParameters_eq_flatMap (exprs : List Expr) :
    Expr.listParameters exprs = exprs.flatMap Expr.parameters := by
  induction exprs with
  | nil => rfl
  | cons expr rest ih => rw [Expr.listParameters, ih, List.flatMap_cons]

/-- The parameters of entries are those of their values. -/
theorem Expr.entryParameters_eq_flatMap (entries : List (String × Expr)) :
    Expr.entryParameters entries = entries.flatMap fun entry => entry.2.parameters := by
  induction entries with
  | nil => rfl
  | cons entry rest ih => rw [Expr.entryParameters, ih, List.flatMap_cons]

/-- The parameters of columns are those of their expressions. -/
theorem Projection.listParameters_eq_flatMap (columns : List Projection) :
    Projection.listParameters columns = columns.flatMap fun column => column.expr.parameters := by
  induction columns with
  | nil => rfl
  | cons column rest ih =>
    obtain ⟨expr, alias?⟩ := column
    rw [Projection.listParameters, ih, List.flatMap_cons]

/-- The parameters of an order are those of its terms. -/
theorem OrderTerm.listParameters_eq_flatMap (order : List OrderTerm) :
    OrderTerm.listParameters order = order.flatMap fun term => term.expr.parameters := by
  induction order with
  | nil => rfl
  | cons term rest ih =>
    obtain ⟨expr, direction⟩ := term
    rw [OrderTerm.listParameters, ih, List.flatMap_cons]

/-- The parameters of conditions are those of each of them. -/
theorem Condition.listParameters_eq_flatMap (conditions : List Condition) :
    Condition.listParameters conditions = conditions.flatMap Condition.parameters := by
  induction conditions with
  | nil => rfl
  | cons condition rest ih => rw [Condition.listParameters, ih, List.flatMap_cons]

/-! ## Conditions that are put together -/

namespace Condition

theorem listParameters_parts (condition : Condition) :
    listParameters condition.parts = condition.parameters := by
  unfold parts
  split
  · rw [parameters]
  · rw [listParameters, listParameters, List.append_nil]

/-- A conjunction binds what its two sides bind. -/
theorem parameters_andAlso (left right : Condition) :
    (left.andAlso right).parameters = left.parameters ++ right.parameters := by
  rw [andAlso, parameters, listParameters_eq_flatMap, List.flatMap_append,
    ← listParameters_eq_flatMap, ← listParameters_eq_flatMap, listParameters_parts,
    listParameters_parts]

/-- Conditions that are joined bind what each of them binds. -/
theorem clauseParameters_all (conditions : List Condition) :
    clauseParameters (all conditions) = listParameters conditions := by
  unfold all
  split
  · rfl
  · rw [clauseParameters, listParameters, listParameters, List.append_nil]
  · rw [clauseParameters, parameters]

end Condition

end RelationalQuery.Sql
