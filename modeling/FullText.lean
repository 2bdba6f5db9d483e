import FullText.Number.Style
import FullText.Number.Numeral
import FullText.Text.Blank
import FullText.Text.Quoted
import FullText.Text.Escape
import FullText.Text.Utf8
import FullText.Wire.Arg
import FullText.Json.Text
import FullText.Query.Builder
import FullText.Query.Json
import FullText.Schema.Declaration
import FullText.Schema.Json
import FullText.Wire.Resp
import FullText.Wire.Address
import FullText.Metrics
import FullText.Document.Value
import FullText.Document.Results
import FullText.Json.Error
import FullText.Json.Number
import FullText.Json.Reader
import FullText.Json.Skip
import FullText.Config.Basic
import FullText.Config.Reader
import FullText.Index.Definition
import FullText.Index.Operation
import FullText.Proofs.Number.Plain
import FullText.Proofs.Query.Contribution
import FullText.Proofs.Query.Reading
import FullText.Proofs.Document.Grammar
import FullText.Proofs.Query.Clauses
import FullText.Proofs.Query.Decoding
import FullText.Proofs.Schema.Options
import FullText.Proofs.Schema.Clauses
import FullText.Proofs.Schema.Names
import FullText.Proofs.Index.Creation
import FullText.Proofs.Index.Commands
import FullText.Proofs.Index.Dialect
import FullText.Proofs.Index.Keys
import FullText.Proofs.Index.Serving
import FullText.Proofs.Index.Runs
import FullText.Proofs.Index.Growth
import FullText.Proofs.Index.Documents
import FullText.Proofs.Schema.ByName
import FullText.Proofs.Query.Neighbours
import FullText.Proofs.Index.Vectors
import FullText.Proofs.Index.Listings
import FullText.Proofs.Query.Parameters
import FullText.Proofs.Index.Tags
import FullText.Proofs.Number.Value
import FullText.Proofs.Number.Rounding
import FullText.Proofs.Number.Layout
import FullText.Proofs.Number.Shortest
import FullText.Proofs.Index.Numbers
import FullText.Proofs.Schema.Counts
import FullText.Proofs.Query.Order
import FullText.Proofs.Query.Filled
import FullText.Proofs.Index.Accounts
import FullText.Proofs.Number.Widening
import FullText.Proofs.Index.Blobs
import FullText.Proofs.Wire.Conversion
import FullText.Proofs.Schema.Numbers
