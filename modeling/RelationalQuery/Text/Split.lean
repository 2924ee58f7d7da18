/-!
# Splitting at a character

Main definitions:

- `Text.fields` splits a text at every occurrence of a character.
-/

namespace RelationalQuery.Text

/-- The pieces of a text between the occurrences of a character. -/
def fields (separator : Char) : List Char → List (List Char)
  | [] => [[]]
  | c :: rest =>
    if c = separator then [] :: fields separator rest
    else
      match fields separator rest with
      | [] => [[c]]
      | field :: more => (c :: field) :: more

end RelationalQuery.Text
