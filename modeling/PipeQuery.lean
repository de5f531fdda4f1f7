import PipeQuery.Argument.Json
import PipeQuery.Collection.QueryMember
import PipeQuery.Collection.Summary
import PipeQuery.Json.Reader
import PipeQuery.Record.Document
import PipeQuery.Proofs.Argument.Rendering
import PipeQuery.Proofs.Pipeline.RoundTrip
import PipeQuery.Proofs.Pipeline.StepEnd
import PipeQuery.Proofs.Collection.Piping
import PipeQuery.Proofs.Collection.Filtering
import PipeQuery.Proofs.Collection.FilteredSort
import PipeQuery.Proofs.Query.Selection
import PipeQuery.Proofs.Query.Blocks
import PipeQuery.Proofs.Collection.Blocks
import PipeQuery.Proofs.Pipeline.Canonical
import PipeQuery.Proofs.Collection.NumberEquality
import PipeQuery.Proofs.Query.Membership
import PipeQuery.Proofs.Collection.Counts
import PipeQuery.Proofs.Argument.IntegerLiteral
import PipeQuery.Proofs.Pipeline.Rejection
import PipeQuery.Proofs.Argument.QuotedKeys
import PipeQuery.Proofs.Collection.BareWords
import PipeQuery.Proofs.Collection.MirroredSort
import PipeQuery.Proofs.Text.Places
import PipeQuery.Proofs.Text.Rejoined
import PipeQuery.Proofs.Pipeline.Bounds
import PipeQuery.Proofs.Text.Opaque
import PipeQuery.Proofs.Json.Places
import PipeQuery.Proofs.Record.Path
import PipeQuery.Proofs.Collection.Windows
