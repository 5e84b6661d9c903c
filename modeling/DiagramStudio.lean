import DiagramStudio.CommandLine.Run
import DiagramStudio.Main
import DiagramStudio.Proofs.Diagram.Scan
import DiagramStudio.Proofs.Diagram.Tidy
import DiagramStudio.Proofs.Diagram.Rework
import DiagramStudio.Proofs.Diagram.Collapse
import DiagramStudio.Proofs.Diagram.SpanParts
import DiagramStudio.Proofs.Diagram.EdgeLabel
import DiagramStudio.Proofs.Diagram.Layout
import DiagramStudio.Proofs.Diagram.Balance
import DiagramStudio.Proofs.Diagram.Directive
import DiagramStudio.Proofs.Diagram.Label
import DiagramStudio.Proofs.Diagram.Source
import DiagramStudio.Proofs.Diagram.Repair
import DiagramStudio.Proofs.Diagram.Idempotence
import DiagramStudio.Proofs.Diagram.Content
import DiagramStudio.Proofs.Diagram.Alignment
import DiagramStudio.Proofs.Diagram.SingleLine
import DiagramStudio.Proofs.Diagram.ClassLine
import DiagramStudio.Proofs.Diagram.Shape
import DiagramStudio.Proofs.Diagram.Braces
import DiagramStudio.Proofs.Diagram.ClassBraces
import DiagramStudio.Proofs.Diagram.ClassRepair
import DiagramStudio.Proofs.Diagram.ClassRebuilt
import DiagramStudio.Proofs.Diagram.ClassBodies
import DiagramStudio.Proofs.Diagram.ClassLedger
import DiagramStudio.Proofs.Diagram.Relationship
import DiagramStudio.Proofs.Diagram.Fence
import DiagramStudio.Proofs.Diagram.Untagged
import DiagramStudio.Proofs.Diagram.LineEnds
import DiagramStudio.Proofs.Diagram.WellFormed
import DiagramStudio.Proofs.Diagram.Preamble
import DiagramStudio.Proofs.Diagram.Unclosed
import DiagramStudio.Proofs.Json.Print
import DiagramStudio.Proofs.Json.RoundTrip
import DiagramStudio.Proofs.Service.Script
import DiagramStudio.Proofs.Service.KeySecrecy
import DiagramStudio.Proofs.Model.Turns
import DiagramStudio.Proofs.CommandLine.Arguments
import DiagramStudio.Proofs.CommandLine.TokenLimit
import DiagramStudio.Proofs.CommandLine.Generate
import DiagramStudio.Proofs.Diagram.Normalized
import DiagramStudio.Proofs.Diagram.Spelling
import DiagramStudio.Proofs.Diagram.Ampersand
import DiagramStudio.Proofs.Diagram.StrayOpener
import DiagramStudio.Proofs.Diagram.EdgeParts
import DiagramStudio.Proofs.Diagram.OrphanEnds
import DiagramStudio.Proofs.Diagram.Fallback
import DiagramStudio.Proofs.Service.Unusable
import DiagramStudio.Proofs.Diagram.Stripping
import DiagramStudio.Proofs.Model.Carriers
import DiagramStudio.Proofs.Model.Configuration
import DiagramStudio.Proofs.Model.Requests
import DiagramStudio.Proofs.Diagram.Compaction
import DiagramStudio.Proofs.Diagram.FirstDirective
