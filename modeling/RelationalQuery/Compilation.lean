import RelationalQuery.Alias
import RelationalQuery.Log
import RelationalQuery.Validation

/-!
# Compilations

A compilation may fail.  Besides its result it leaves behind the aliases that were handed out, the
checks that were made of records, and events; all of them also if it fails.

Main definitions:

- `Compilation` is a computation over a `Progress`.
- `Compilation.validate` makes and notes a check; `Compilation.emit` notes an event.
-/

namespace RelationalQuery

/-- A check of a record that a validator was asked for. -/
structure ValidationCall where
  path : String
  mode : ValidationMode
  record : Members
  schema : ObjectSchema

/-- What a compilation leaves behind. -/
structure Progress where
  aliases : Aliases
  calls : List ValidationCall
  events : List Event

/-- Nothing has happened. -/
def Progress.start : Progress := ⟨.start, [], []⟩

/-- A computation that may fail and that leaves its progress behind. -/
abbrev Compilation := ExceptT QueryError (StateM Progress)

namespace Compilation

/-- Run a computation that hands out aliases. -/
def naming (named : Naming α) : Compilation α :=
  ExceptT.mk fun progress =>
    let (result, aliases) := named progress.aliases
    (result, { progress with aliases })

/-- Note an event. -/
def emit (event : Event) : Compilation Unit :=
  modify fun progress => { progress with events := progress.events ++ [event] }

/-- Check a record, and note that. -/
def validate (validator : Validator) (record : Members) (schema : ObjectSchema) (path : String)
    (mode : ValidationMode) : Compilation Unit := do
  modify fun progress => { progress with calls := progress.calls ++ [⟨path, mode, record, schema⟩] }
  validator record schema path mode

end Compilation

end RelationalQuery
