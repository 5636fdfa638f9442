import QueryKit.Assoc
import QueryKit.Binary64.Basic
import QueryKit.Binary64.Layout
import QueryKit.Binary64.Reading
import QueryKit.Binary64.Shortest
import QueryKit.Builder.Basic
import QueryKit.Builder.Call
import QueryKit.Builder.Clauses
import QueryKit.Builder.Scope
import QueryKit.Cache
import QueryKit.Decimal.Basic
import QueryKit.Decimal.Binary
import QueryKit.Decimal.Reading
import QueryKit.Dialect
import QueryKit.Document.Command
import QueryKit.Document.Compilation
import QueryKit.Document.Field
import QueryKit.Document.Pattern
import QueryKit.Driver.Basic
import QueryKit.Driver.Scripted
import QueryKit.Driver.Tracker
import QueryKit.Eager.Loader
import QueryKit.Eager.Path
import QueryKit.Eager.Relation
import QueryKit.Error
import QueryKit.Exchange.Basic
import QueryKit.Exchange.Call
import QueryKit.Exchange.Invocation
import QueryKit.Exchange.Model
import QueryKit.Exchange.Outcome
import QueryKit.Exchange.Query
import QueryKit.Exchange.Schema
import QueryKit.Exchange.Value
import QueryKit.Execution
import QueryKit.Json.Basic
import QueryKit.Json.Numeral
import QueryKit.Json.Parser
import QueryKit.Json.Printer
import QueryKit.Json.Record
import QueryKit.Json.Written
import QueryKit.Model.Basic
import QueryKit.Model.Record
import QueryKit.Model.Registry
import QueryKit.Model.Relation
import QueryKit.Parameter
import QueryKit.Query.Basic
import QueryKit.Query.Clause
import QueryKit.Row.Basic
import QueryKit.Row.Reading
import QueryKit.Schema.Introspection
import QueryKit.Schema.Registry
import QueryKit.Schema.Snapshot
import QueryKit.Schema.Table
import QueryKit.Settings
import QueryKit.Sql.Aggregate
import QueryKit.Sql.Condition
import QueryKit.Sql.Identifier
import QueryKit.Sql.Lateral
import QueryKit.Sql.Literal
import QueryKit.Sql.Marker
import QueryKit.Sql.Mutation
import QueryKit.Sql.Select
import QueryKit.Sql.Spelling
import QueryKit.Sql.Emitter
import QueryKit.Text.Blank
import QueryKit.Text.CharClass
import QueryKit.Text.Hex
import QueryKit.Text.Names
import QueryKit.Text.Numeral
import QueryKit.Text.Quoted
import QueryKit.Text.Search
import QueryKit.Timestamp.Basic
import QueryKit.Timestamp.Lenient
import QueryKit.Timestamp.Text
import QueryKit.Transaction
import QueryKit.Uuid
import QueryKit.Value.Basic
import QueryKit.Value.Conversion
import QueryKit.Value.Key
import QueryKit.Value.Printer
import QueryKit.Proofs.Builder.Isolation
import QueryKit.Proofs.Sql.Layout
import QueryKit.Proofs.Sql.Quoting
import QueryKit.Proofs.Sql.Scanning
import QueryKit.Proofs.Filter.Markers
import QueryKit.Proofs.Builder.Bindings
import QueryKit.Proofs.Builder.Parts
import QueryKit.Proofs.Builder.Blotted
import QueryKit.Proofs.Builder.Carried
import QueryKit.Proofs.Driver.Action
import QueryKit.Proofs.Eager.Keys
import QueryKit.Proofs.Eager.Narrowing
import QueryKit.Proofs.Builder.Windows
import QueryKit.Proofs.Eager.Queries
import QueryKit.Proofs.Eager.Batching
import QueryKit.Proofs.Eager.BoundIds
import QueryKit.Proofs.Document.Mutation
import QueryKit.Proofs.Builder.Deletion
import QueryKit.Proofs.Cache.Recency
import QueryKit.Proofs.Builder.Ordering
import QueryKit.Proofs.Eager.Paths
import QueryKit.Proofs.Eager.Refilling
import QueryKit.Proofs.Eager.Completeness
import QueryKit.Proofs.Eager.Counting
import QueryKit.Proofs.Eager.Passes
import QueryKit.Proofs.Driver.Transactions
import QueryKit.Proofs.Schema.Coherence
import QueryKit.Proofs.Text.Numerals
import QueryKit.Proofs.Json.Reading
import QueryKit.Proofs.Timestamp.Calendar
import QueryKit.Proofs.Timestamp.Reading
import QueryKit.Proofs.Schema.Persistence
import QueryKit.Proofs.Json.Framing
import QueryKit.Proofs.Cache.Reads
import QueryKit.Proofs.Filter.Rendering
import QueryKit.Proofs.Document.Stored
import QueryKit.Proofs.Document.Literal
import QueryKit.Proofs.Builder.Precedence
import QueryKit.Proofs.Builder.Lookup
import QueryKit.Proofs.Sql.Aggregate
import QueryKit.Proofs.Builder.Repaging
import QueryKit.Proofs.Builder.Pages
import QueryKit.Proofs.Eager.Distribution
import QueryKit.Proofs.Eager.Links
import QueryKit.Proofs.Eager.Lateral
import QueryKit.Proofs.Eager.Limits
import QueryKit.Proofs.Text.Words
import QueryKit.Proofs.Builder.Validation
import QueryKit.Proofs.Sql.Aliases
import QueryKit.Proofs.Sql.References
import QueryKit.Proofs.Eager.Failures
import QueryKit.Proofs.Eager.Faults
import QueryKit.Proofs.Sql.Literals
import QueryKit.Proofs.Sql.Insertion
import QueryKit.Proofs.Value.Keys
import QueryKit.Proofs.Binary64.Patterns
import QueryKit.Proofs.Value.Integers
import QueryKit.Proofs.Value.Parameters
import QueryKit.Proofs.Document.Rows
import QueryKit.Proofs.Document.Pattern
import QueryKit.Proofs.Document.Reads
import QueryKit.Proofs.Document.Joins
import QueryKit.Proofs.Document.Alias
import QueryKit.Proofs.Row.Basic
import QueryKit.Proofs.Row.Split
import QueryKit.Proofs.Value.Sameness
import QueryKit.Proofs.Model.Changes
import QueryKit.Proofs.Eager.Trees
