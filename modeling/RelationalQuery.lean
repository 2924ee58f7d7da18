import RelationalQuery.Json.Reader
import RelationalQuery.Relation.Written
import RelationalQuery.Relation.Join
import RelationalQuery.Validation
import RelationalQuery.Parameter.Encoding
import RelationalQuery.Parameter.Binary
import RelationalQuery.Sql.Patch
import RelationalQuery.Sql.Chain
import RelationalQuery.Query.Compiler
import RelationalQuery.Proofs.Computation
import RelationalQuery.Proofs.Alias
import RelationalQuery.Proofs.Coherence
import RelationalQuery.Proofs.Filter.Derivation
import RelationalQuery.Proofs.Sql.WellScoped
import RelationalQuery.Proofs.Filter.Meaning
import RelationalQuery.Proofs.Projection.Derivation
import RelationalQuery.Proofs.Projection.WellScoped
import RelationalQuery.Proofs.Projection.Meaning
import RelationalQuery.Proofs.Query.WellScoped
import RelationalQuery.Proofs.Sql.Parameters
import RelationalQuery.Proofs.Sql.Placeholders
import RelationalQuery.Proofs.Sql.Scope
import RelationalQuery.Proofs.Sql.Truth
import RelationalQuery.Proofs.Sql.Evaluation
import RelationalQuery.Proofs.Sql.TokenStructure
import RelationalQuery.Proofs.Query.WriteSet
import RelationalQuery.Proofs.Query.Operations
import RelationalQuery.Proofs.Query.Rows
import RelationalQuery.Proofs.Query.WrittenOnce
import RelationalQuery.Proofs.Query.SelectionReads
import RelationalQuery.Proofs.Query.RequiredMembers
import RelationalQuery.Proofs.Query.ValidatedWrites
import RelationalQuery.Proofs.Query.Shadows
import RelationalQuery.Proofs.Query.Renderable
import RelationalQuery.Proofs.Query.CreatedSelection
import RelationalQuery.Proofs.Failure
import RelationalQuery.Proofs.Sql.Failure
import RelationalQuery.Proofs.Projection.Failure
import RelationalQuery.Proofs.Query.Failure
import RelationalQuery.Proofs.Query.KnownTables
import RelationalQuery.Proofs.Filter.Tests
import RelationalQuery.Proofs.Projection.NullFree
import RelationalQuery.Proofs.Query.NullFree
import RelationalQuery.Proofs.DeclaredKeys
import RelationalQuery.Proofs.Filter.DeclaredKeys
import RelationalQuery.Proofs.Projection.DeclaredKeys
import RelationalQuery.Proofs.Query.DeclaredKeys
import RelationalQuery.Proofs.Query.SelectList
import RelationalQuery.Proofs.Sql.Qualification
import RelationalQuery.Proofs.Filter.Qualification
import RelationalQuery.Proofs.Sql.Stored
import RelationalQuery.Proofs.Sql.Execution
import RelationalQuery.Proofs.Filter.Missing
import RelationalQuery.Proofs.Query.PatchForms
import RelationalQuery.Proofs.Query.PatchedKeys
import RelationalQuery.Proofs.RecordParts
import RelationalQuery.Proofs.Calendar
import RelationalQuery.Proofs.Parameter.Hint
import RelationalQuery.Proofs.Sql.Precedence
import RelationalQuery.Proofs.Sql.Grouping
import RelationalQuery.Proofs.Filter.Grouping
import RelationalQuery.Proofs.Sql.References
import RelationalQuery.Proofs.Sql.Subqueries
import RelationalQuery.Proofs.Projection.Entries
import RelationalQuery.Proofs.Projection.Subqueries
import RelationalQuery.Proofs.Json.Numbers
import RelationalQuery.Proofs.Json.Text
import RelationalQuery.Proofs.Schema.Reading
import RelationalQuery.Proofs.Schema.Written
import RelationalQuery.Proofs.Schema.Defaults
import RelationalQuery.Proofs.Schema.Serialization
import RelationalQuery.Proofs.Json.Keys
import RelationalQuery.Proofs.Sql.ZeroCharacter
import RelationalQuery.Proofs.Sql.Keyed
import RelationalQuery.Proofs.Filter.Keyed
import RelationalQuery.Proofs.Projection.Keyed
import RelationalQuery.Proofs.Query.Keyed
import RelationalQuery.Proofs.Log
