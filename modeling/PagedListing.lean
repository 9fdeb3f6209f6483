import PagedListing.DatabaseUrl
import PagedListing.Http.Exchange
import PagedListing.Json.Reader
import PagedListing.Log.Entry
import PagedListing.Log.Setup
import PagedListing.Pagination.Submission
import PagedListing.Service
import PagedListing.Proofs.Query.Emission
import PagedListing.Proofs.Query.Numbering
import PagedListing.Proofs.Listing.Trace
import PagedListing.Proofs.Query.Outline
import PagedListing.Proofs.Listing.Texts
import PagedListing.Proofs.Listing.Course
import PagedListing.Proofs.Listing.Confinement
import PagedListing.Proofs.Query.Decoding
import PagedListing.Proofs.Number.Spelling
import PagedListing.Proofs.Number.Readers
import PagedListing.Proofs.Number.Numeral
import PagedListing.Proofs.Number.Quotient
import PagedListing.Proofs.Pagination.Windows
import PagedListing.Proofs.Http.Content
import PagedListing.Proofs.Http.Status
import PagedListing.Proofs.Service.Caching
import PagedListing.Proofs.Uuid.Canonical
import PagedListing.Proofs.Lookup.Course
import PagedListing.Proofs.Projection.Alignment
import PagedListing.Proofs.Query.History
import PagedListing.Proofs.Query.NormalForm
import PagedListing.Proofs.Statement.Shift
import PagedListing.Proofs.Query.Accumulation
import PagedListing.Proofs.Query.Sources
import PagedListing.Proofs.Params.Agreement
import PagedListing.Proofs.Http.Dependence
import PagedListing.Proofs.Session.Failures
import PagedListing.Proofs.Http.Refusal
import PagedListing.Proofs.Query.Search
import PagedListing.Proofs.Number.Rounding
import PagedListing.Proofs.Number.Nearest
import PagedListing.Proofs.Pagination.PageCount
import PagedListing.Proofs.Text.Trimming
import PagedListing.Proofs.Text.Joining
import PagedListing.Proofs.SortField.Resolution
import PagedListing.Proofs.SortField.Rendering
import PagedListing.Proofs.SortField.Segments
import PagedListing.Proofs.Statement.Naming
import PagedListing.Proofs.Number.Hexadecimal
import PagedListing.Proofs.Uuid.Spelling
import PagedListing.Proofs.Lookup.Spellings
import PagedListing.Proofs.Pagination.Precedence
import PagedListing.Proofs.Pagination.Typed
import PagedListing.Proofs.Pagination.Clamping
import PagedListing.Proofs.Filter.Statuses
import PagedListing.Proofs.Filter.Mentions
import PagedListing.Proofs.Filter.Canonical
import PagedListing.Proofs.Json.Escapes
import PagedListing.Proofs.Json.Objects
import PagedListing.Proofs.Log.Calendar
import PagedListing.Proofs.Log.Lines
