import RelationalQuery.Sql.Statement
import RelationalQuery.Alias

/-!
# Chains of statements

A chain is run as one query.  Every statement but the last one is named, and later statements can
read the rows that it returns; the last one gives the result.

Main definitions:

- `Chain` is a list of statements with the stem of their names.
- `Chain.push` appends a statement; `Chain.nextAlias` is the name that it gets.
- `Chain.tokens` renders a chain.
-/

namespace RelationalQuery.Sql

/-- Statements in their order; each is named by the stem and its index. -/
structure Chain where
  stem : String
  statements : List Statement

namespace Chain

/-- The chain without statements. -/
def empty (stem : String) : Chain := ⟨stem, []⟩

/-- The chain of a single statement. -/
def single (stem : String) (statement : Statement) : Chain := ⟨stem, [statement]⟩

/-- The name of the statement at an index. -/
def nameAt (chain : Chain) (index : Nat) : String := numberedName chain.stem index

/-- The name of the statement that is appended next. -/
def nextAlias (chain : Chain) : String := chain.nameAt chain.statements.length

/-- The name of the last statement. -/
def lastAlias? (chain : Chain) : Option String :=
  if chain.statements.isEmpty then none else some (chain.nameAt (chain.statements.length - 1))

/-- Append a statement. -/
def push (chain : Chain) (statement : Statement) : Chain :=
  { chain with statements := chain.statements ++ [statement] }

/-- The tokens of each named statement; the first one has the given index. -/
def namedTokens (stem : String) : Nat → List Statement → Except QueryError (List (List Token))
  | _, [] => .ok []
  | index, statement :: rest => do
    let name ← nameTokens (numberedName stem index)
    let body ← statement.tokens
    return (name ++ .fixed " AS (" :: body ++ [.fixed ")"]) :: (← namedTokens stem (index + 1) rest)

/-- The tokens of a chain. -/
def tokens (chain : Chain) : Rendered := do
  match chain.statements.getLast? with
  | none => throw (.structural .emptyChain)
  | some body =>
    match chain.statements.dropLast with
    | [] => body.tokens
    | named =>
      let namedTokens ← namedTokens chain.stem 0 named
      return .fixed "WITH " :: Token.separated ", " namedTokens ++ .fixed " " :: (← body.tokens)

end Chain

end RelationalQuery.Sql
