import RelationalQuery.Sql.Identifier
import RelationalQuery.Parameter.Basic
import RelationalQuery.Config

/-!
# Pieces of statements

A statement is rendered to tokens first.  The tokens are then written one after the other, and a
parameter is bound where its token stands, so a placeholder always counts the parameters in front
of it.

Main definitions:

- `Token` is a piece of a statement; `Rendered` is a list of them or an error.
- `RenderContext` is the text with the bound parameters; `RenderContext.writeAll` writes tokens.
- `CompiledQuery.ofTokens` gives the text and the parameters of tokens.
-/

namespace RelationalQuery.Sql

/-- A piece of a statement. -/
inductive Token where
  /-- A keyword, an operator, punctuation or trusted text. -/
  | fixed (text : String)
  /-- A quoted name. -/
  | name (identifier : Identifier)
  /-- A quoted literal. -/
  | literal (text : String)
  /-- The place of a parameter. -/
  | parameter (value : Parameter)
deriving DecidableEq

namespace Token

/-- Lists of tokens with a separator between them. -/
def separated (separator : String) (parts : List (List Token)) : List Token :=
  List.intercalate [.fixed separator] parts

/-- A keyword in front of a list with commas; without items there is no keyword. -/
def clause (keyword : String) (parts : List (List Token)) : List Token :=
  if parts.isEmpty then [] else .fixed keyword :: separated ", " parts

end Token

/-- The tokens of a part of a statement, or an error. -/
abbrev Rendered := Except QueryError (List Token)

/-- The token of a name. -/
def nameTokens (name : String) : Rendered := do
  return [.name (← Identifier.ofText name)]

end RelationalQuery.Sql

namespace RelationalQuery

/-- The text of a statement with its parameters in the order of their placeholders. -/
structure CompiledQuery where
  sql : String
  parameters : List Parameter
deriving DecidableEq

namespace Sql

/-- A text in the making with the parameters that are bound in it so far. -/
structure RenderContext where
  style : PlaceholderStyle
  sql : String
  parameters : List Parameter
deriving DecidableEq

namespace RenderContext

/-- The context in which nothing is written. -/
def start (style : PlaceholderStyle) : RenderContext := ⟨style, "", []⟩

/-- Write a text. -/
def append (context : RenderContext) (text : String) : RenderContext :=
  { context with sql := context.sql ++ text }

/-- Bind a parameter and write its placeholder. -/
def bind (context : RenderContext) (value : Parameter) : RenderContext :=
  { context.append (context.style.placeholder context.parameters.length) with
    parameters := context.parameters ++ [value] }

/-- Write a token. -/
def write (context : RenderContext) : Token → RenderContext
  | .fixed text => context.append text
  | .name identifier => context.append identifier.quoted
  | .literal text => context.append (quoted '\'' text)
  | .parameter value => context.bind value

/-- Write tokens one after the other. -/
def writeAll (context : RenderContext) (tokens : List Token) : RenderContext :=
  tokens.foldl write context

/-- The text and the parameters of a context. -/
def finish (context : RenderContext) : CompiledQuery := ⟨context.sql, context.parameters⟩

end RenderContext

end Sql

/-- The text and the parameters of tokens. -/
def CompiledQuery.ofTokens (style : PlaceholderStyle) (tokens : List Sql.Token) : CompiledQuery :=
  ((Sql.RenderContext.start style).writeAll tokens).finish

end RelationalQuery
