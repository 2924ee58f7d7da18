import RelationalQuery.Text.Blank

/-!
# Email addresses

An address is accepted when it has the shape `local@domain.suffix`: no blank, exactly one `@` with
something in front of it, and a dot in the domain with something on both sides.
-/

namespace RelationalQuery.Text

/-- Some dot of the text has a character in front of it and a character behind it. -/
def hasInnerDot : List Char → Bool
  | [] => false
  | _ :: rest => rest.dropLast.contains '.'

/-- The text has the shape of an email address. -/
def isEmail (text : String) : Bool :=
  let cs := text.toList
  let name := cs.takeWhile (· ≠ '@')
  match cs.drop name.length with
  | [] => false
  | _ :: domain =>
    !cs.any isBlank && !name.isEmpty && !domain.contains '@' && hasInnerDot domain

end RelationalQuery.Text
