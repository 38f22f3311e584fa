import RecordQuery.Filter.Typed
import RecordQuery.Main
import RecordQuery.Proofs.Calendar.Forms
import RecordQuery.Proofs.Source.FrontMatter
import RecordQuery.Proofs.Filter.InferredSchema
import RecordQuery.Proofs.Order.NaturalText
import RecordQuery.Proofs.Order.Numeric
import RecordQuery.Proofs.Order.Property
import RecordQuery.Proofs.Order.StableSort
import RecordQuery.Proofs.Order.Ordinal
import RecordQuery.Proofs.Source.Loading
import RecordQuery.Proofs.Query.Selection
import RecordQuery.Proofs.Query.Pages
import RecordQuery.Proofs.Filter.Contribution
import RecordQuery.Proofs.Filter.Binding
import RecordQuery.Proofs.Query.Fields
import RecordQuery.Proofs.Filter.Compilation
import RecordQuery.Proofs.Filter.ByExample
import RecordQuery.Proofs.Filter.Integers
import RecordQuery.Proofs.Query.Noninterference
import RecordQuery.Proofs.Query.Failures
import RecordQuery.Proofs.Filter.Document
import RecordQuery.Proofs.Filter.Base
import RecordQuery.Proofs.Filter.Flattened
import RecordQuery.Proofs.Filter.Paging
import RecordQuery.Proofs.Filter.PagingOrder
import RecordQuery.Proofs.Filter.Mirrored
import RecordQuery.Proofs.CommandLine.Layers
import RecordQuery.Proofs.CommandLine.NewFile
import RecordQuery.Proofs.Filter.DateRange
import RecordQuery.Proofs.Source.Walking
import RecordQuery.Proofs.Filter.Coercion
import RecordQuery.Proofs.Filter.Containment
import RecordQuery.Proofs.Filter.Trichotomy
import RecordQuery.Proofs.Filter.SortedRange
import RecordQuery.Proofs.Filter.Membership
import RecordQuery.Proofs.Filter.CommaText
import RecordQuery.Proofs.Filter.Tags
