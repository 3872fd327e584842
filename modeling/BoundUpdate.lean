import BoundUpdate.Text.Blank
import BoundUpdate.Text.Identifier
import BoundUpdate.Text.Quoted
import BoundUpdate.Text.LetterCase
import BoundUpdate.Number.IntegerText
import BoundUpdate.Number.Shortest
import BoundUpdate.Number.RealText
import BoundUpdate.Value.Equality
import BoundUpdate.Value.Display
import BoundUpdate.Failure.Basic
import BoundUpdate.Template.Reader
import BoundUpdate.Template.Marker
import BoundUpdate.Activity.Basic
import BoundUpdate.Template.Cache
import BoundUpdate.Lookup.Attribute
import BoundUpdate.Lookup.Path
import BoundUpdate.Lookup.Reference
import BoundUpdate.Conversion.Catalogue
import BoundUpdate.Invocation.Slots
import BoundUpdate.Invocation.Batch
import BoundUpdate.Backend.Unit
import BoundUpdate.Invocation.Context
import BoundUpdate.Backend.Recording
import BoundUpdate.Backend.Database
import BoundUpdate.Backend.Client
import BoundUpdate.Json.Reader
import BoundUpdate.Settings.Dsn
import BoundUpdate.Settings.Entry
import BoundUpdate.Settings.Reference
import BoundUpdate.Settings.Coercion
import BoundUpdate.Settings.Active
import BoundUpdate.Annotation.Expression
import BoundUpdate.Annotation.Evaluation
import BoundUpdate.Declaration.Inference
import BoundUpdate.Query
import BoundUpdate.Backend.Connector
import BoundUpdate.Proofs.Template.Segments
import BoundUpdate.Proofs.Template.PercentReading
import BoundUpdate.Proofs.Template.MarkerReading
import BoundUpdate.Proofs.Invocation.UnitProtocol
import BoundUpdate.Proofs.Backend.Exchange
import BoundUpdate.Proofs.Invocation.Lifecycle
import BoundUpdate.Proofs.Activity.Outcomes
import BoundUpdate.Proofs.Lookup.Failing
import BoundUpdate.Proofs.Conversion.Failing
import BoundUpdate.Proofs.Invocation.BindingFailure
import BoundUpdate.Proofs.Invocation.BatchShape
import BoundUpdate.Proofs.Invocation.RowWise
import BoundUpdate.Proofs.Backend.ReturningClause
import BoundUpdate.Proofs.Backend.PreparedMarkers
import BoundUpdate.Proofs.Invocation.SlotWise
import BoundUpdate.Proofs.Template.SourceForm
import BoundUpdate.Proofs.Invocation.Answers
import BoundUpdate.Proofs.Settings.Following
import BoundUpdate.Proofs.Invocation.Discretion
import BoundUpdate.Proofs.Query.Arguments
import BoundUpdate.Proofs.Query.Life
import BoundUpdate.Proofs.Backend.Lending
import BoundUpdate.Proofs.Settings.Overrides
import BoundUpdate.Proofs.Json.Values
import BoundUpdate.Proofs.Settings.Naming
import BoundUpdate.Proofs.Failure.Sequence
import BoundUpdate.Proofs.Json.Tables
import BoundUpdate.Proofs.Lookup.Splitting
import BoundUpdate.Proofs.Settings.Reporting
import BoundUpdate.Proofs.Settings.ReportedSources
import BoundUpdate.Proofs.Text.Escaping
import BoundUpdate.Proofs.Settings.Addresses
import BoundUpdate.Proofs.Settings.AddressEntries
import BoundUpdate.Proofs.Lookup.Watching
import BoundUpdate.Proofs.Lookup.Precedence
import BoundUpdate.Proofs.Backend.ConnectionText
import BoundUpdate.Proofs.Backend.Opening
import BoundUpdate.Proofs.Backend.ConnectionParts
import BoundUpdate.Proofs.Backend.AddressText
import BoundUpdate.Proofs.Backend.AddressAgreement
import BoundUpdate.Proofs.Template.Keeping
import BoundUpdate.Proofs.Invocation.Shapes
import BoundUpdate.Proofs.Conversion.Structure
import BoundUpdate.Proofs.Query.Unreachable
import BoundUpdate.Proofs.Json.RoundTrip
import BoundUpdate.Proofs.Backend.Obtaining
import BoundUpdate.Proofs.Backend.CommitMode
import BoundUpdate.Proofs.Declaration.Appearance
import BoundUpdate.Proofs.Template.Refusal
import BoundUpdate.Proofs.Backend.NormalForm
