import RelationalQuery.Sql.Token
import RelationalQuery.Sql.Tree

/-!
# Rendering of expressions, conditions and selections

Main definitions:

- `Expr.tokens`, `Condition.conjuncts` and `Select.tokens` render the trees by recursion on them.
- `Condition.tokens` renders a condition: the parts of nested groups stand in one row.
-/

namespace RelationalQuery.Sql

/-! ## Columns -/

/-- A column with an optional qualifier. -/
def qualifiedTokens (qualifier? : Option String) (name : String) : Rendered := do
  match qualifier? with
  | none => nameTokens name
  | some qualifier => return (← nameTokens qualifier) ++ .fixed "." :: (← nameTokens name)

namespace ColumnRef

/-- A column with its keys as subscripts, which can also be assigned. -/
def tokens (column : ColumnRef) : Rendered := do
  return (← qualifiedTokens column.qualifier? column.name) ++
    column.path.flatMap fun key => [.fixed "[", .literal key, .fixed "]"]

/-- The steps to the value of a path as text: all but the last one keep JSON. -/
def arrowTokens : List String → List Token
  | [] => []
  | [key] => [.fixed "->>", .literal key]
  | key :: rest => .fixed "->" :: .literal key :: arrowTokens rest

/-- The value at the path of a column as text. -/
def textTokens (column : ColumnRef) : Rendered := do
  return (← qualifiedTokens column.qualifier? column.name) ++ arrowTokens column.path

/-- The current value of a column combined with an operand. -/
def operationTokens (target : ColumnRef) (operator : ArithmeticOperator) (operand : Parameter)
    (numericType : String) : Rendered := do
  if target.path.isEmpty then
    return .fixed "(" :: (← target.tokens) ++
      [.fixed (" " ++ operator.symbol ++ " ("), .parameter operand, .fixed "))"]
  else
    return .fixed "((" :: (← target.textTokens) ++
      [.fixed (")::" ++ numericType ++ " " ++ operator.symbol ++ " ("), .parameter operand,
        .fixed (")::" ++ numericType ++ ")::text::jsonb")]

end ColumnRef

/-! ## Parts with separators -/

/-- The words of a direction. -/
def Direction.words : Direction → String
  | .ascending => " ASC"
  | .descending => " DESC"

/-- Parts that all have to hold. -/
def conjunction (parts : List (List Token)) : List Token :=
  if parts.isEmpty then [.fixed "TRUE"] else Token.separated " AND " parts

/-- Parts of which one has to hold. -/
def disjunction (parts : List (List Token)) : List Token :=
  if parts.isEmpty then [.fixed "FALSE"]
  else .fixed "((" :: Token.separated ") OR (" parts ++ [.fixed "))"]

/-- A part under a name of its own. -/
def aliasedTokens (tokens : List Token) (alias? : Option String) : Rendered := do
  match alias? with
  | none => return tokens
  | some label => return tokens ++ .fixed " AS " :: (← nameTokens label)

/-- A keyword with a bound number. -/
def countTokens (keyword : String) (count? : Option UInt64) : List Token :=
  match count? with
  | none => []
  | some count => [.fixed keyword, .parameter (.plain (Json.ofUInt64 count))]

/-- All rows of several statements, one after the other. -/
def unionTokens (sources : List String) : Rendered := do
  return Token.separated " UNION ALL "
    (← sources.mapM fun source => return .fixed "SELECT * FROM " :: (← nameTokens source))

/-! ## Trees -/

mutual

/-- The tokens of an expression. -/
def Expr.tokens : Expr → Rendered
  | .null => .ok [.fixed "null"]
  | .parameter value => .ok [.parameter value]
  | .column column => column.tokens
  | .columnText column => column.textTokens
  | .reference source column => qualifiedTokens (some source) column
  | .operation target operator operand numericType =>
    target.operationTokens operator operand numericType
  | .cast value type => do return .fixed "(" :: (← value.tokens) ++ [.fixed (")::" ++ type)]
  | .object entries => do
    return .fixed "json_build_object(" :: Token.separated ", " (← Expr.entryTokens entries) ++
      [.fixed ")"]
  | .aggregate value order => do
    let valueTokens ← value.tokens
    let orderTokens ← OrderTerm.listTokens order
    return .fixed "COALESCE(json_agg(" :: valueTokens ++ Token.clause " ORDER BY " orderTokens ++
      [.fixed "), ", .literal "[]", .fixed "::json)"]
  | .merge target entries => do
    let targetTokens ← target.tokens
    let entryTokens ← Expr.entryTokens entries
    return .fixed "COALESCE(" :: targetTokens ++
      [.fixed ", ", .literal "\x7b\x7d", .fixed "::jsonb) || jsonb_build_object("] ++
      Token.separated ", " entryTokens ++ [.fixed ")"]
  | .subquery query => do return .fixed "(" :: (← query.tokens) ++ [.fixed ")"]
  | .raw text => .ok [.fixed text]

/-- The tokens of each key with its value. -/
def Expr.entryTokens : List (String × Expr) → Except QueryError (List (List Token))
  | [] => .ok []
  | (key, value) :: rest => do
    let valueTokens ← value.tokens
    return (.literal key :: .fixed ", " :: valueTokens) :: (← Expr.entryTokens rest)

/-- The tokens of each expression of a list. -/
def Expr.listTokens : List Expr → Except QueryError (List (List Token))
  | [] => .ok []
  | expr :: rest => do return (← expr.tokens) :: (← Expr.listTokens rest)

/-- The tokens of each key of an order. -/
def OrderTerm.listTokens : List OrderTerm → Except QueryError (List (List Token))
  | [] => .ok []
  | ⟨expr, direction⟩ :: rest => do
    return ((← expr.tokens) ++ [.fixed direction.words]) :: (← OrderTerm.listTokens rest)

/-- The tokens of each column of a result. -/
def Projection.listTokens : List Projection → Except QueryError (List (List Token))
  | [] => .ok []
  | ⟨expr, alias?⟩ :: rest => do
    let column ← aliasedTokens (← expr.tokens) alias?
    return column :: (← Projection.listTokens rest)

/-- The tokens of each part of a condition that has to hold; nested groups give all their parts. -/
def Condition.conjuncts : Condition → Except QueryError (List (List Token))
  | .and conditions => Condition.allConjuncts conditions
  | .or conditions => do return [disjunction (← Condition.listTokens conditions)]
  | .not condition => do
    return [.fixed "NOT (" :: conjunction (← condition.conjuncts) ++ [.fixed ")"]]
  | .compare left comparison right => do
    let leftTokens ← left.tokens
    return [leftTokens ++ .fixed (" " ++ comparison.symbol ++ " ") :: (← right.tokens)]
  | .nullCheck expr isNull => do
    return [(← expr.tokens) ++ [.fixed (if isNull then " IS NULL" else " IS NOT NULL")]]
  | .inList _ [] => .ok [[.fixed "FALSE"]]
  | .inList expr (value :: values) => do
    let exprTokens ← expr.tokens
    let first ← value.tokens
    let others ← Expr.listTokens values
    return [exprTokens ++ .fixed " IN (" :: Token.separated ", " (first :: others) ++ [.fixed ")"]]
  | .between expr low high => do
    let exprTokens ← expr.tokens
    let lowTokens ← low.tokens
    let highTokens ← high.tokens
    return [exprTokens ++ .fixed " BETWEEN " :: lowTokens ++ .fixed " AND " :: highTokens]
  | .startsWith expr lead => do
    let exprTokens ← expr.tokens
    return [.fixed "starts_with(" :: exprTokens ++ .fixed ", " :: (← lead.tokens) ++ [.fixed ")"]]
  | .containsText expr needle => do
    let exprTokens ← expr.tokens
    return [.fixed "strpos(" :: exprTokens ++ .fixed ", " :: (← needle.tokens) ++
      [.fixed ") > 0"]]
  | .hasKey column key => do return [(← column.tokens) ++ [.fixed " ? ", .literal key]]
  | .exists query negated => do
    return [.fixed (if negated then "NOT EXISTS (" else "EXISTS (") :: (← query.tokens) ++
      [.fixed ")"]]
  | .raw text => .ok [[.fixed text]]

/-- The tokens of each part of several conditions that have to hold. -/
def Condition.allConjuncts : List Condition → Except QueryError (List (List Token))
  | [] => .ok []
  | condition :: rest => do
    return (← condition.conjuncts) ++ (← Condition.allConjuncts rest)

/-- The tokens of each condition of a list. -/
def Condition.listTokens : List Condition → Except QueryError (List (List Token))
  | [] => .ok []
  | condition :: rest => do
    return conjunction (← condition.conjuncts) :: (← Condition.listTokens rest)

/-- The tokens of the rows that a selection reads. -/
def FromItem.tokens : FromItem → Rendered
  | .table name alias? => do aliasedTokens (← nameTokens name) alias?
  | .subquery query label => do
    let queryTokens ← query.tokens
    aliasedTokens (.fixed "(" :: queryTokens ++ [.fixed ")"]) (some label)
  | .unionAll sources label => do
    let sourceTokens ← unionTokens sources
    aliasedTokens (.fixed "(" :: sourceTokens ++ [.fixed ")"]) (some label)

/-- The clause of the rows of a selection; without rows there is no clause. -/
def FromItem.clauseTokens : Option FromItem → Rendered
  | none => .ok []
  | some item => do return .fixed " FROM " :: (← item.tokens)

/-- The clause of a condition; without a condition there is no clause. -/
def Condition.clauseTokens : Option Condition → Rendered
  | none => .ok []
  | some condition => do return .fixed " WHERE " :: conjunction (← condition.conjuncts)

/-- The tokens of a selection. -/
def Select.tokens : Select → Rendered
  | ⟨columns, from?, where?, order, limit?, offset?⟩ => do
    let columnTokens ← Projection.listTokens columns
    let fromTokens ← FromItem.clauseTokens from?
    let whereTokens ← Condition.clauseTokens where?
    let orderTokens ← OrderTerm.listTokens order
    return .fixed "SELECT " ::
      (if columnTokens.isEmpty then [.fixed "*"] else Token.separated ", " columnTokens) ++
      fromTokens ++ whereTokens ++ Token.clause " ORDER BY " orderTokens ++
      countTokens " LIMIT " limit? ++ countTokens " OFFSET " offset?

end

/-- The tokens of a condition. -/
def Condition.tokens (condition : Condition) : Rendered := do
  return conjunction (← condition.conjuncts)

end RelationalQuery.Sql
