import ContactSearch.Text.Blank
import ContactSearch.Text.Alphabetic
import ContactSearch.Text.Numeric
import ContactSearch.Text.Quoted
import ContactSearch.Text.Utf8
import ContactSearch.Text.Percent
import ContactSearch.Text.Base64
import ContactSearch.Text.ControlSequence
import ContactSearch.Number.Reading
import ContactSearch.Json.Reading
import ContactSearch.Json.Writing
import ContactSearch.Script.Tokens
import ContactSearch.Script.Evaluation
import ContactSearch.Store.Catalog
import ContactSearch.Store.Filter
import ContactSearch.Store.Query
import ContactSearch.Contact.Search
import ContactSearch.Contact.Seed
import ContactSearch.Http.Form
import ContactSearch.Http.Message
import ContactSearch.Http.Segment
import ContactSearch.Server.Address
import ContactSearch.Server.Config
import ContactSearch.Server.Environment
import ContactSearch.Server.Credentials
import ContactSearch.Server.Metrics
import ContactSearch.Server.Exposition
import ContactSearch.Server.Pages
import ContactSearch.Server.Search
import ContactSearch.Server.Service
import ContactSearch.CommandLine.Report
import ContactSearch.Main
import ContactSearch.Proofs.Script.Grammar
import ContactSearch.Proofs.Script.Lexemes
import ContactSearch.Proofs.Script.Parsing
import ContactSearch.Proofs.Script.Quotation
import ContactSearch.Proofs.Contact.Injection
import ContactSearch.Proofs.Json.Quoting
import ContactSearch.Proofs.Store.Queries
import ContactSearch.Proofs.Contact.Construction
import ContactSearch.Proofs.Contact.SecureSearch
import ContactSearch.Proofs.Server.Layers
import ContactSearch.Proofs.Server.Runs
import ContactSearch.Proofs.Server.Noninterference
import ContactSearch.Proofs.Contact.InsecureSearch
import ContactSearch.Proofs.Contact.Payload
import ContactSearch.Proofs.Store.Reference
import ContactSearch.Proofs.Store.Refinement
import ContactSearch.Proofs.Text.Base64
import ContactSearch.Proofs.Server.Authentication
import ContactSearch.Proofs.Server.Counting
import ContactSearch.Proofs.Server.Activities
import ContactSearch.Proofs.Server.Conservation
import ContactSearch.Proofs.Server.SearchStatus
import ContactSearch.Proofs.Number.Numerals
import ContactSearch.Proofs.Number.Rounding
import ContactSearch.Proofs.Script.DepthLimit
import ContactSearch.Proofs.Number.ReadBack
import ContactSearch.Proofs.Script.Marks
import ContactSearch.Proofs.Script.Assembly
import ContactSearch.Proofs.Script.Writing
import ContactSearch.Proofs.Script.PrintedForm
import ContactSearch.Proofs.Http.Headers
import ContactSearch.Proofs.Server.Headers
import ContactSearch.Proofs.Server.Baseline
import ContactSearch.Proofs.Server.Refusals
import ContactSearch.Proofs.Http.QuotedString
import ContactSearch.Proofs.Server.Challenges
import ContactSearch.Proofs.Server.Independence
import ContactSearch.Proofs.Script.Bounds
import ContactSearch.Proofs.Script.FirstFault
import ContactSearch.Proofs.Text.Quoted
import ContactSearch.Proofs.Script.DisplayShape
import ContactSearch.Proofs.Json.Entries
import ContactSearch.Proofs.Json.Numerals
import ContactSearch.Proofs.Json.RoundTrip
import ContactSearch.Proofs.Json.Carried
import ContactSearch.Proofs.Store.TextConstruction
import ContactSearch.Proofs.Script.Spelling
import ContactSearch.Proofs.Script.Layout
import ContactSearch.Proofs.Script.Literals
import ContactSearch.Proofs.Script.Relocation
import ContactSearch.Proofs.Script.Spacing
import ContactSearch.Proofs.Json.Reordering
import ContactSearch.Proofs.Script.Reordering
import ContactSearch.Proofs.Store.FieldOrder
import ContactSearch.Proofs.Number.WholeNumbers
import ContactSearch.Proofs.Json.Equality
import ContactSearch.Proofs.Script.ValueEquality
import ContactSearch.Proofs.Script.NumericKeys
import ContactSearch.Proofs.Store.ScriptFailures
import ContactSearch.Proofs.Store.Construction
import ContactSearch.Proofs.Store.ClauseCount
import ContactSearch.Proofs.Store.Interchange
import ContactSearch.Proofs.Store.Lowering
import ContactSearch.Proofs.Store.Flattening
import ContactSearch.Proofs.Store.Insertion
import ContactSearch.Proofs.Http.Paths
import ContactSearch.Proofs.Server.Labels
import ContactSearch.Proofs.Server.ServedLabels
import ContactSearch.Proofs.CommandLine.Assignments
import ContactSearch.Proofs.CommandLine.Diagnostics
