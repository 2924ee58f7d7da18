/-!
# Shapes of relations

A relation joins a column of its own table, the target, with a column of the related table, the
source.  The kinds of the indexes on both columns tell which side holds the foreign key.

Main definitions:

- `IndexKind` is the kind of an index; `RelationShape.classify?` derives the shape from two of them.
- `RelationShape.isSingular` and `RelationShape.isInverse` say how many rows a relation has and
  which side holds the key.
-/

namespace RelationalQuery

/-- The kind of an index. -/
inductive IndexKind where
  | primary
  | secondary
  | unique
deriving DecidableEq

/-- The title of an index kind. -/
def IndexKind.title : IndexKind → String
  | .primary => "Primary"
  | .secondary => "Secondary"
  | .unique => "Unique"

/-- The index kind with a given title, which may be in lower case as a whole. -/
def IndexKind.ofTitle? (title : String) : Option IndexKind :=
  if title = "Primary" ∨ title = "primary" then some .primary
  else if title = "Secondary" ∨ title = "secondary" then some .secondary
  else if title = "Unique" ∨ title = "unique" then some .unique
  else none

/-- Which side of a relation holds the foreign key, and how many related rows there are. -/
inductive RelationShape where
  /-- This table holds the key; there is at most one related row. -/
  | foreignOwned
  /-- The related table holds a unique key; there is at most one related row. -/
  | uniqueInverse
  /-- The related table holds a key that is not unique; there are any number of related rows. -/
  | pluralInverse
deriving DecidableEq

namespace RelationShape

/-- The shape of a relation with the given index kinds on its target and its source. -/
def classify? (target source : IndexKind) : Option RelationShape :=
  match target, source with
  | .secondary, .primary => some .foreignOwned
  | .unique, .primary => some .foreignOwned
  | .primary, .unique => some .uniqueInverse
  | .primary, .secondary => some .pluralInverse
  | _, _ => none

/-- There is at most one related row. -/
def isSingular : RelationShape → Bool
  | .pluralInverse => false
  | _ => true

/-- The related table holds the foreign key. -/
def isInverse : RelationShape → Bool
  | .foreignOwned => false
  | _ => true

theorem eq_foreignOwned {shape : RelationShape} (h : shape.isInverse = false) :
    shape = .foreignOwned := by
  cases shape with
  | foreignOwned => rfl
  | uniqueInverse | pluralInverse => cases h

end RelationShape

end RelationalQuery
