import RecordSql.Derive
import RecordSql.Execution
import RecordSql.Generate.FileTree
import RecordSql.Json.Reader
import RecordSql.Main
import RecordSql.Proofs.Binding.Columns
import RecordSql.Proofs.Binding.Distinct
import RecordSql.Proofs.BoundValue.Independence
import RecordSql.Proofs.Definition.Hygiene
import RecordSql.Proofs.Grouping.RoundTrip
import RecordSql.Proofs.Rendering.Placeholder
import RecordSql.Schema.Declaration
import RecordSql.Proofs.Registration.Closure
import RecordSql.Proofs.Accord
import RecordSql.Proofs.Rendering.Layouts
import RecordSql.Proofs.Rendering.Twins
import RecordSql.Proofs.Session.History
import RecordSql.Proofs.Rendering.Dialects
import RecordSql.Proofs.Binding.Registered
import RecordSql.Proofs.Execution.Confidentiality
import RecordSql.Proofs.Batch.Modes
import RecordSql.Proofs.Instance.Statements
import RecordSql.Proofs.Derivation.Agreement
import RecordSql.Proofs.Regeneration.Frame
import RecordSql.Proofs.Regeneration.Rereading
import RecordSql.Proofs.Placement.Rows
import RecordSql.Proofs.Placement.Words
import RecordSql.Proofs.Regeneration.Bodies
import RecordSql.Proofs.Regeneration.Names
import RecordSql.Proofs.Regeneration.Update
import RecordSql.Proofs.Regeneration.Windows
import RecordSql.Proofs.Registration.DepthFirst
import RecordSql.Proofs.Key.Selection
import RecordSql.Proofs.Insertion
import RecordSql.Proofs.Schema.Declared
import RecordSql.Proofs.Rendering.Qualified
import RecordSql.Proofs.Writing.Confined
import RecordSql.Proofs.Clauses
import RecordSql.Proofs.Definition.Depth
import RecordSql.Proofs.Expression.Validated
import RecordSql.Proofs.Rendering.Lists
import RecordSql.Proofs.Rendering.Supplied
import RecordSql.Proofs.Regeneration.Counts
import RecordSql.Proofs.Writing.Identifiers
import RecordSql.Proofs.Regeneration.Pairing
import RecordSql.Proofs.Regeneration.Patched
import RecordSql.Proofs.Placement.Search
import RecordSql.Proofs.Execution.Shortening
