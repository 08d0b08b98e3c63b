import Attribution.Archive
import Attribution.Bytes
import Attribution.Cache
import Attribution.CommandLine
import Attribution.CommandLine.Console
import Attribution.CommandLine.Options
import Attribution.Connection
import Attribution.Content
import Attribution.Disk
import Attribution.Download
import Attribution.Failure
import Attribution.GoMod.Parser
import Attribution.GoMod.Token
import Attribution.Graph.Builder
import Attribution.License
import Attribution.License.Catalogue
import Attribution.License.Classifier
import Attribution.License.Expression
import Attribution.License.Expression.Fault
import Attribution.License.Expression.Parser
import Attribution.License.Expression.Token
import Attribution.License.Reader
import Attribution.License.Signature
import Attribution.License.Symbol
import Attribution.License.Symbol.Table
import Attribution.Main
import Attribution.Manifest
import Attribution.Module
import Attribution.Number.Binary64
import Attribution.Number.Decimal
import Attribution.Number.Reading
import Attribution.Path
import Attribution.Proxy
import Attribution.Report
import Attribution.Report.Date
import Attribution.Report.Engine
import Attribution.Report.Rendering
import Attribution.Report.Template
import Attribution.Run
import Attribution.Scan
import Attribution.Text.Alphanumeric
import Attribution.Text.Blank
import Attribution.Text.Cluster
import Attribution.Text.Digit
import Attribution.Text.LetterCase
import Attribution.Text.LetterCase.Table
import Attribution.Text.Printable
import Attribution.Text.Quoted
import Attribution.Text.Sequence
import Attribution.Text.Span
import Attribution.Text.Split
import Attribution.Text.Utf8
import Attribution.Text.Width
import Attribution.Text.Wrap
import Attribution.Tree
import Attribution.Tree.Drawing
import Attribution.Proofs.Graph.Route
import Attribution.Proofs.Graph.Afresh
import Attribution.Proofs.Graph.Growth
import Attribution.Proofs.Tree.Walk
import Attribution.Proofs.Graph.Order
import Attribution.Proofs.Graph.Tally
import Attribution.Proofs.Graph.Coverage
import Attribution.Proofs.Graph.Complete
import Attribution.Proofs.Graph.Cycle
import Attribution.Proofs.Graph.Invariant
import Attribution.Proofs.Graph.Shape
import Attribution.Proofs.Graph.Constancy
import Attribution.Proofs.Graph.Depth
import Attribution.Proofs.Content
import Attribution.Proofs.Graph.Provenance
import Attribution.Proofs.Graph.Frontier
import Attribution.Proofs.Graph.Determinism
import Attribution.Proofs.Graph.Leniency
import Attribution.Proofs.Graph.Saturation
import Attribution.Proofs.Tree.Lineage
import Attribution.Proofs.Graph.Reentry
import Attribution.Proofs.Graph.Rebuild
import Attribution.Proofs.Graph.Circle
import Attribution.Proofs.Graph.Review
import Attribution.Proofs.Graph.Viability
import Attribution.Proofs.Graph.History
import Attribution.Proofs.GoMod.Reading
import Attribution.Proofs.GoMod.Quote
import Attribution.Proofs.GoMod.Punctuation
import Attribution.Proofs.GoMod.Identity
import Attribution.Proofs.Download.Wire
import Attribution.Proofs.Download.Refusal
import Attribution.Proofs.Content.Published
import Attribution.Proofs.License.Classifier
import Attribution.Proofs.Graph.Blame
import Attribution.Proofs.CommandLine.Whole
import Attribution.Proofs.Report.Fence
import Attribution.Proofs.Content.Agreement
import Attribution.Proofs.License.Label
import Attribution.Proofs.Tree.Place
import Attribution.Proofs.License.Layout
import Attribution.Proofs.License.NormalForm
import Attribution.Proofs.License.Recognition
import Attribution.Proofs.Tree.Outline
import Attribution.Proofs.Proxy.Address
import Attribution.Proofs.Proxy.Choice
import Attribution.Proofs.Connection
