import JoinDiagram.Main
import JoinDiagram.Diagram.Expectation
import JoinDiagram.Sample.Query
import JoinDiagram.Proofs.List.Distinct
import JoinDiagram.Proofs.Diagram.Builder
import JoinDiagram.Proofs.Diagram.Push
import JoinDiagram.Proofs.Diagram.Diagnostics
import JoinDiagram.Proofs.Extraction.Assembly
import JoinDiagram.Proofs.Extraction.Scope
import JoinDiagram.Proofs.Extraction.Trace
import JoinDiagram.Proofs.Condition.Words
import JoinDiagram.Proofs.Condition.References
import JoinDiagram.Proofs.Condition.NodeColumns
import JoinDiagram.Proofs.Condition.Recording
import JoinDiagram.Proofs.Condition.Clauses
import JoinDiagram.Proofs.Condition.Equality
import JoinDiagram.Proofs.Condition.Connected
import JoinDiagram.Proofs.Condition.Operand
import JoinDiagram.Proofs.Condition.Comparison
import JoinDiagram.Proofs.Condition.Spelling
import JoinDiagram.Proofs.Condition.Quote
import JoinDiagram.Proofs.Condition.Literal
import JoinDiagram.Proofs.Condition.QuotedName
import JoinDiagram.Proofs.Wire.Projection
import JoinDiagram.Proofs.Wire.Columns
import JoinDiagram.Proofs.Analysis.Check
import JoinDiagram.Proofs.Analysis.Response
import JoinDiagram.Proofs.Analysis.Limits
import JoinDiagram.Proofs.Analysis.Trace
import JoinDiagram.Proofs.Analysis.SettingsEntries
import JoinDiagram.Proofs.Extraction.Registry
import JoinDiagram.Proofs.Extraction.QuotedJoin
import JoinDiagram.Proofs.Extraction.Placement
import JoinDiagram.Proofs.Extraction.Alias
import JoinDiagram.Proofs.Extraction.Definition
import JoinDiagram.Proofs.Failure.Position
import JoinDiagram.Proofs.Failure.Scan
import JoinDiagram.Proofs.Json.Field
import JoinDiagram.Proofs.Wire.Decode
import JoinDiagram.Proofs.Json.Document
import JoinDiagram.Proofs.CommandLine.Outcome
import JoinDiagram.Proofs.Condition.Chain
import JoinDiagram.Proofs.Condition.Conjunction
import JoinDiagram.Proofs.Condition.Joint
import JoinDiagram.Proofs.Wire.EdgeId
import JoinDiagram.Proofs.Sample.Chain
import JoinDiagram.Proofs.Failure.Value
import JoinDiagram.Proofs.Failure.Headline
