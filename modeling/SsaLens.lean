import SsaLens.Annotations
import SsaLens.Annotations.Action
import SsaLens.Build
import SsaLens.Command
import SsaLens.Command.Arguments
import SsaLens.Command.Run
import SsaLens.Documents
import SsaLens.Dump
import SsaLens.Dump.Record
import SsaLens.Explorer
import SsaLens.Hint
import SsaLens.Json
import SsaLens.Json.Decode
import SsaLens.Json.Magnitude
import SsaLens.Json.Reader
import SsaLens.Json.Writer
import SsaLens.Log
import SsaLens.Log.Directive
import SsaLens.Log.Filter
import SsaLens.Main
import SsaLens.Path
import SsaLens.Report
import SsaLens.Report.Record
import SsaLens.Row
import SsaLens.Row.Record
import SsaLens.Server
import SsaLens.Server.Connection
import SsaLens.Server.Method
import SsaLens.Server.Push
import SsaLens.Server.Shape
import SsaLens.Server.Shape.Capabilities
import SsaLens.Server.Shape.Parameters
import SsaLens.Session
import SsaLens.Settings
import SsaLens.SortedMap
import SsaLens.Symbol
import SsaLens.Text.Alphanumeric
import SsaLens.Text.Blank
import SsaLens.Text.CodeTable
import SsaLens.Text.Decimal
import SsaLens.Text.Find
import SsaLens.Text.Lines
import SsaLens.Text.Units
import SsaLens.Text.Utf8
import SsaLens.Toolchain
import SsaLens.Url
import SsaLens.Url.Domain
import SsaLens.Url.Domain.Composition
import SsaLens.Url.Domain.Direction
import SsaLens.Url.Domain.Joining
import SsaLens.Url.Domain.Mapping
import SsaLens.Url.Domain.Punycode
import SsaLens.Url.Host
import SsaLens.Url.Parts
import SsaLens.Url.Percent
import SsaLens.Url.Reader
import SsaLens.Verdict
import SsaLens.Verdict.Diagnostic
import SsaLens.Verdict.Record
import SsaLens.View
import SsaLens.View.Record
import SsaLens.Proofs.Diagnostic.Grammar
import SsaLens.Proofs.Diagnostic.Classification
import SsaLens.Proofs.Text.Lines
import SsaLens.Proofs.Text.Occurrence
import SsaLens.Proofs.Dump.Region
import SsaLens.Proofs.Dump.Concatenation
import SsaLens.Proofs.Server.Client
import SsaLens.Proofs.Server.Replica
import SsaLens.Proofs.Annotations.Slot
import SsaLens.Proofs.Annotations.Overlap
import SsaLens.Proofs.Annotations.Freshness
import SsaLens.Proofs.Annotations.Nesting
import SsaLens.Proofs.Diagnostic.FilePart
import SsaLens.Proofs.Report.Scope
import SsaLens.Proofs.View.Events
import SsaLens.Proofs.Row.Annotation
import SsaLens.Proofs.Build.Lookup
import SsaLens.Proofs.Json.Decode
import SsaLens.Proofs.Session.Refresh
import SsaLens.Proofs.Report.Record
import SsaLens.Proofs.View.Record
import SsaLens.Proofs.Text.Utf8
import SsaLens.Proofs.Command.Capture
import SsaLens.Proofs.Row.Number
import SsaLens.Proofs.Session.Restart
import SsaLens.Proofs.View.Marker
import SsaLens.Proofs.Server.Save
import SsaLens.Proofs.Server.History
import SsaLens.Proofs.Server.Hints
import SsaLens.Proofs.Text.LineEnding
import SsaLens.Proofs.Dump.LineEnding
import SsaLens.Proofs.Diagnostic.Parts
import SsaLens.Proofs.View.Listing
import SsaLens.Proofs.Record
import SsaLens.Proofs.Dump.Heading
import SsaLens.Proofs.Path
import SsaLens.Proofs.SourceFile
import SsaLens.Proofs.Server.Attribution
import SsaLens.Proofs.Row.Placement
import SsaLens.Proofs.Report.Reading
import SsaLens.Proofs.Diagnostic.Rewording
import SsaLens.Proofs.Text.Break
import SsaLens.Proofs.Hint
import SsaLens.Proofs.Text.Offset
import SsaLens.Proofs.Dump.Search
import SsaLens.Proofs.Session.Withheld
import SsaLens.Proofs.Path.Naming
import SsaLens.Proofs.Server.Documents
import SsaLens.Proofs.Symbol.Derivation
import SsaLens.Proofs.Row.Leftmost
import SsaLens.Proofs.Server.Settings
import SsaLens.Proofs.Server.Limiter
import SsaLens.Proofs.Server.Run
import SsaLens.Proofs.Server.Frame
