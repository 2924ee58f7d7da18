import RelationalQuery.Error

/-!
# Quoted names and literals

A name is always written between double quotes and a literal between single quotes; a quote inside
is written twice.

Main definitions:

- `quoted` writes a text between quotes.
- `Identifier` is a text that can be a name; `Identifier.ofText` checks one.
-/

namespace RelationalQuery.Sql

/-- A text between quotes, with every quote inside written twice. -/
def quoted (quote : Char) (text : String) : String :=
  String.ofList
    (quote :: text.toList.flatMap (fun c => if c = quote then [c, c] else [c]) ++ [quote])

/-- The character that no name holds. -/
def nul : Char := Char.ofNat 0

/-- A text that can be a name: it is not empty and does not hold the character zero. -/
structure Identifier where
  text : String
  nonempty : text.isEmpty = false
  nulFree : text.toList.contains nul = false
deriving DecidableEq

namespace Identifier

/-- Check that a text can be a name. -/
def ofText (text : String) : Except QueryError Identifier :=
  if nonempty : text.isEmpty = false then
    if nulFree : text.toList.contains nul = false then .ok ⟨text, nonempty, nulFree⟩
    else .error (.structural .nulInIdentifier)
  else .error (.structural .emptyIdentifier)

/-- The name between double quotes. -/
def quoted (identifier : Identifier) : String := Sql.quoted '"' identifier.text

end Identifier

end RelationalQuery.Sql
