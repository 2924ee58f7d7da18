import RelationalQuery.Json.Basic

/-!
# Compact text of JSON values

A value is written without blanks, members in their order.  In strings the quote, the backslash and
the characters below space are escaped; every other character is written as it is.

Main definitions:

- `Json.escape` is the escaped form of one character.
- `Json.chars` is the text of a value as characters, and `Json.text` as a string.
-/

namespace RelationalQuery.Json

/-- The digit of a value below sixteen, in lower case. -/
def hexDigit (n : Nat) : Char := Nat.digitChar n

/-- The escaped form of a character inside a string. -/
def escape (c : Char) : List Char :=
  if c = '"' then ['\\', '"']
  else if c = '\\' then ['\\', '\\']
  else if c = '\x08' then ['\\', 'b']
  else if c = '\x0c' then ['\\', 'f']
  else if c = '\n' then ['\\', 'n']
  else if c = '\r' then ['\\', 'r']
  else if c = '\t' then ['\\', 't']
  else if c.toNat < 0x20 then
    ['\\', 'u', '0', '0', hexDigit (c.toNat / 16), hexDigit (c.toNat % 16)]
  else [c]

/-- A string in quotes. -/
def quoted (s : String) : List Char := '"' :: s.toList.flatMap escape ++ ['"']

mutual

/-- The text of a value. -/
def chars : Json → List Char
  | .null => ['n', 'u', 'l', 'l']
  | .bool true => ['t', 'r', 'u', 'e']
  | .bool false => ['f', 'a', 'l', 's', 'e']
  | .number n => n.text.toList
  | .string s => quoted s
  | .array [] => ['[', ']']
  | .array (item :: items) => '[' :: chars item ++ itemChars items ++ [']']
  | .object [] => ['\x7b', '\x7d']
  | .object ((key, value) :: members) =>
    '\x7b' :: quoted key ++ ':' :: chars value ++ memberChars members ++ ['\x7d']

/-- The text of further items, each after a comma. -/
def itemChars : List Json → List Char
  | [] => []
  | item :: items => ',' :: chars item ++ itemChars items

/-- The text of further members, each after a comma. -/
def memberChars : List (String × Json) → List Char
  | [] => []
  | (key, value) :: members =>
    ',' :: quoted key ++ ':' :: chars value ++ memberChars members

end

/-- The compact text of a value. -/
def text (value : Json) : String := String.ofList value.chars

end RelationalQuery.Json
