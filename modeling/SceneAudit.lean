import SceneAudit.Command
import SceneAudit.FileTree.Disk
import SceneAudit.Main
import SceneAudit.Sink
import SceneAudit.Proofs.Hierarchy.FirstRecord
import SceneAudit.Proofs.Hierarchy.Forest
import SceneAudit.Proofs.Hierarchy.Walk
import SceneAudit.Proofs.Digraph.CyclicClass
import SceneAudit.Proofs.Digraph.SortedCycle
import SceneAudit.Proofs.Hierarchy.Links
import SceneAudit.Proofs.Hierarchy.Preorder
import SceneAudit.Proofs.Hierarchy.RepeatedRecord
import SceneAudit.Proofs.Hierarchy.SpanningForest
import SceneAudit.Proofs.Hierarchy.UnambiguousTree
import SceneAudit.Proofs.Hierarchy.ChildEntry
import SceneAudit.Proofs.Hierarchy.CompleteDump
import SceneAudit.Proofs.Text.Numeral
import SceneAudit.Proofs.Block.Segmentation
import SceneAudit.Proofs.Text.Line
import SceneAudit.Proofs.Text.Trim
import SceneAudit.Proofs.Reference
import SceneAudit.Proofs.Record.Fields
import SceneAudit.Proofs.Record.LineNumber
import SceneAudit.Proofs.Scene.Layout
import SceneAudit.Proofs.Scene.Lines
import SceneAudit.Proofs.Scene.RoundTrip
import SceneAudit.Proofs.Scene.Concatenation
import SceneAudit.Proofs.Finding.CrossReference
import SceneAudit.Proofs.Finding.FurtherScenes
import SceneAudit.Proofs.Finding.ReadBack
import SceneAudit.Proofs.Scene.Account
import SceneAudit.Proofs.Registry.Interleaving
import SceneAudit.Proofs.Run.Findings
import SceneAudit.Proofs.Run.Isolation
import SceneAudit.Proofs.Run.Rerun
import SceneAudit.Proofs.Run.Schedule
import SceneAudit.Proofs.Command.Hierarchy
import SceneAudit.Proofs.Digraph.Renaming
import SceneAudit.Proofs.Hierarchy.OpaqueIds
import SceneAudit.Proofs.Hierarchy.RecordOrder
import SceneAudit.Proofs.Reference.LetterCase
import SceneAudit.Proofs.Scene.DumpText
import SceneAudit.Proofs.Scene.LetterCase
import SceneAudit.Proofs.Registry.Count
import SceneAudit.Proofs.Finding.LetterCase
import SceneAudit.Proofs.Scene.LineEnding
import SceneAudit.Proofs.Scene.RepeatedBlock
import SceneAudit.Proofs.Run.Outputs
import SceneAudit.Proofs.Run.ReportRows
import SceneAudit.Proofs.Hierarchy.CycleReport
import SceneAudit.Proofs.Record.Outcome
import SceneAudit.Proofs.Registry.Calls
import SceneAudit.Proofs.Finding.Order
import SceneAudit.Proofs.Sidecar
import SceneAudit.Proofs.Sink
import SceneAudit.Proofs.Hierarchy.UnusableReference
import SceneAudit.Proofs.Record.NestedLine
import SceneAudit.Proofs.Reference.LeftmostMatch
import SceneAudit.Proofs.Discovery.Listing
import SceneAudit.Proofs.Hierarchy.VisitCount
import SceneAudit.Proofs.CSharp.Declaration
