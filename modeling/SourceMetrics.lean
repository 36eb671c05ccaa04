import SourceMetrics.Python.Parser
import SourceMetrics.Python.Misplaced
import SourceMetrics.Stats
import SourceMetrics.Analysis.Counts
import SourceMetrics.Analysis.Complexity
import SourceMetrics.Json.Reader
import SourceMetrics.Json.Printer
import SourceMetrics.Python.Reader
import SourceMetrics.Tool
import SourceMetrics.Config.Yaml
import SourceMetrics.Files.Collect
import SourceMetrics.Report.Pretty
import SourceMetrics.Command.Arguments
import SourceMetrics.Command.Run
import SourceMetrics.Report.Json
import SourceMetrics.Main
import SourceMetrics.Proofs.Runs
import SourceMetrics.Proofs.Analysis.NodeCounts
import SourceMetrics.Proofs.Analysis.Chains
import SourceMetrics.Proofs.Report.Coherence
import SourceMetrics.Proofs.Python.Violations
import SourceMetrics.Proofs.Json.Codec
import SourceMetrics.Proofs.Report.RoundTrip
import SourceMetrics.Proofs.Report.Totals
import SourceMetrics.Proofs.Python.Alignment
import SourceMetrics.Proofs.Python.LogicalLines
import SourceMetrics.Proofs.Command.Batch
import SourceMetrics.Proofs.Files.Following
import SourceMetrics.Proofs.Files.Writing
import SourceMetrics.Proofs.Command.Settings
import SourceMetrics.Proofs.Files.Walk
import SourceMetrics.Proofs.Text.ByteOrder
import SourceMetrics.Proofs.Files.Joining
import SourceMetrics.Proofs.Files.Sources
import SourceMetrics.Proofs.Files.Skipped
import SourceMetrics.Proofs.Json.Lexemes
import SourceMetrics.Proofs.Json.Printing
import SourceMetrics.Proofs.Json.MemberOrder
import SourceMetrics.Proofs.Report.Printed
import SourceMetrics.Proofs.Config.Loading
import SourceMetrics.Proofs.Text.Lines
import SourceMetrics.Proofs.Report.Words
import SourceMetrics.Proofs.Command.Inputs
import SourceMetrics.Proofs.Command.Schedule
import SourceMetrics.Proofs.Command.JsonOutput
import SourceMetrics.Proofs.Command.ExitCode
import SourceMetrics.Proofs.Command.Failing
import SourceMetrics.Proofs.Command.Call
import SourceMetrics.Proofs.Analysis.Points
import SourceMetrics.Proofs.Analysis.Pruning
import SourceMetrics.Proofs.Analysis.Insertion
import SourceMetrics.Proofs.Report.Bounds
import SourceMetrics.Proofs.Tree.DocumentOrder
import SourceMetrics.Proofs.Files.NewFile
import SourceMetrics.Proofs.Config.Template
import SourceMetrics.Proofs.Files.WritingBeside
import SourceMetrics.Proofs.Command.BesideFile
import SourceMetrics.Proofs.Command.NewSettings
import SourceMetrics.Proofs.Python.ErrorNodes
import SourceMetrics.Proofs.Text.Rows
import SourceMetrics.Proofs.Python.ErrorPosition
import SourceMetrics.Proofs.Python.IndentComplaint
import SourceMetrics.Proofs.Python.FollowingNode
import SourceMetrics.Proofs.Stats.Lines
import SourceMetrics.Proofs.Tool.Admission
import SourceMetrics.Proofs.Command.FilledTexts
import SourceMetrics.Proofs.Analysis.Keywords
import SourceMetrics.Proofs.Report.KindRows
import SourceMetrics.Proofs.Config.Validation
import SourceMetrics.Proofs.Text.Trim
import SourceMetrics.Proofs.Python.LastIndent
import SourceMetrics.Proofs.Python.Excerpt
