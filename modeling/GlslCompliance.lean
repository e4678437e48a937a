import GlslCompliance.Command.Execution
import GlslCompliance.Diagnostic.Rendering
import GlslCompliance.Diagnostic.Report
import GlslCompliance.Main
import GlslCompliance.Storage.FileTree
import GlslCompliance.Unit.Compilation
import GlslCompliance.Unit.Encoding
import GlslCompliance.Unit.Loading
import GlslCompliance.Proofs.Extension.Assignment
import GlslCompliance.Proofs.Extension.Consistency
import GlslCompliance.Proofs.Extension.History
import GlslCompliance.Proofs.Json.Grammar
import GlslCompliance.Proofs.Json.Lexing
import GlslCompliance.Proofs.Json.Reading
import GlslCompliance.Proofs.Json.Values
import GlslCompliance.Proofs.Json.Records
import GlslCompliance.Proofs.Json.Writing
import GlslCompliance.Proofs.Unit.Denotation
import GlslCompliance.Proofs.Unit.RoundTrip
import GlslCompliance.Proofs.Diagnostic.Accounting
import GlslCompliance.Proofs.Extension.Notices
import GlslCompliance.Proofs.Requirement.Extensions
import GlslCompliance.Proofs.Requirement.Rules
import GlslCompliance.Proofs.Unit.Run
import GlslCompliance.Proofs.Unit.Tolerance
import GlslCompliance.Proofs.Unit.Deprecation
import GlslCompliance.Proofs.Unit.TurningOn
import GlslCompliance.Proofs.Unit.Version
import GlslCompliance.Proofs.Diagnostic.Recovery
import GlslCompliance.Proofs.Extension.Refusal
import GlslCompliance.Proofs.Unit.Building
import GlslCompliance.Proofs.Command.Origin
import GlslCompliance.Proofs.Command.Status
import GlslCompliance.Proofs.Command.Merging
import GlslCompliance.Proofs.Extension.Partiality
import GlslCompliance.Proofs.Unit.Independence
import GlslCompliance.Proofs.Unit.PartialSupport
import GlslCompliance.Proofs.Json.Schema
import GlslCompliance.Proofs.Diagnostic.Conformance
import GlslCompliance.Proofs.Unit.Classification
import GlslCompliance.Proofs.Command.Agreement
import GlslCompliance.Proofs.Preamble.Reading
import GlslCompliance.Proofs.Preamble.Disclosure
import GlslCompliance.Proofs.Extension.Propagation
import GlslCompliance.Proofs.Text.Ranking
import GlslCompliance.Proofs.Extension.Response
import GlslCompliance.Proofs.Requirement.Outcome
import GlslCompliance.Proofs.Requirement.Numeric
import GlslCompliance.Proofs.Preamble.Shape
import GlslCompliance.Proofs.Text.Selection
import GlslCompliance.Proofs.Text.Trimming
import GlslCompliance.Proofs.Unit.RequestText
import GlslCompliance.Proofs.Diagnostic.Colour
