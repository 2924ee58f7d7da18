import RelationalQuery.Error
import RelationalQuery.Text.Decimal

/-!
# Numbered aliases

Subqueries are named by a stem and a number.  The numbers are handed out one after the other, and a
number that was handed out before an error stays used.

Main definitions:

- `numberedName` is the name with a stem and a number.
- `Numbering` is a computation that hands out numbers; `Numbering.fresh` takes the next name.
- `Naming` is a computation that numbers the subqueries of projections and of filters apart.
-/

namespace RelationalQuery

/-- The name with a stem and a number. -/
def numberedName (stem : String) (index : Nat) : String := stem ++ Text.natural index

/-- A computation that hands out numbers; the state is the next one. -/
abbrev Numbering := ExceptT QueryError (StateM Nat)

namespace Numbering

/-- Take the next name with a stem. -/
def fresh (stem : String) : Numbering String := do
  let index ← get
  set (index + 1)
  return numberedName stem index

end Numbering

/-- The next numbers for the subqueries of projections and of filters. -/
structure Aliases where
  projections : Nat
  filters : Nat
deriving DecidableEq

/-- No number has been handed out. -/
def Aliases.start : Aliases := ⟨0, 0⟩

/-- A computation that hands out numbers for the subqueries of projections and of filters. -/
abbrev Naming := ExceptT QueryError (StateM Aliases)

namespace Naming

/-- Number subqueries of projections. -/
def inProjections (numbering : Numbering α) : Naming α :=
  ExceptT.mk fun aliases =>
    let (result, next) := numbering aliases.projections
    (result, { aliases with projections := next })

/-- Number subqueries of filters. -/
def inFilters (numbering : Numbering α) : Naming α :=
  ExceptT.mk fun aliases =>
    let (result, next) := numbering aliases.filters
    (result, { aliases with filters := next })

end Naming

end RelationalQuery
