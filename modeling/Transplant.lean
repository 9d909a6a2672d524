import Transplant.Settings.Check
import Transplant.Data.Prune
import Transplant.Workflow.Engine
import Transplant.Settings.Record
import Transplant.Tree.Delta
import Transplant.Settings.Environment
import Transplant.Yaml.Token.Lexer
import Transplant.Settings.File
import Transplant.Log.Sink
import Transplant.Terminal.Markup
import Transplant.Terminal.SmallLexicon
import Transplant.Terminal.Wrap
import Transplant.Console.Recorder
import Transplant.Console.Screen
import Transplant.Disk.Basic
import Transplant.Text.Similar
import Transplant.Terminal.Table
import Transplant.Command.Page
import Transplant.Command.Line
import Transplant.Command.Run
import Transplant.Main
import Transplant.Proofs.Workflow.Exec
import Transplant.Proofs.Workflow.Iteration
import Transplant.Proofs.Workflow.Iterative
import Transplant.Proofs.Schema.Checked
import Transplant.Proofs.Workflow.Baseline
import Transplant.Proofs.Workflow.Request
import Transplant.Proofs.Workflow.Deferred
import Transplant.Proofs.Workflow.Alike
import Transplant.Proofs.Workflow.Engine
import Transplant.Proofs.Workflow.Squash
import Transplant.Proofs.Workflow.Source
import Transplant.Proofs.Workflow.Attribution
import Transplant.Proofs.Tree.Start
import Transplant.Proofs.Tree.Siblings
import Transplant.Proofs.Tree.Comparison
import Transplant.Proofs.Tree.Failure
import Transplant.Proofs.Disk.Update
import Transplant.Proofs.Disk.Growth
import Transplant.Proofs.Disk.Given
import Transplant.Proofs.Terminal.Markup
import Transplant.Proofs.Command.Exec
import Transplant.Proofs.Command.Reading
import Transplant.Proofs.Command.Written
import Transplant.Proofs.Command.Logging
import Transplant.Proofs.Command.Report
import Transplant.Proofs.Command.Replay
import Transplant.Proofs.Author
import Transplant.Proofs.Settings.Normal
import Transplant.Proofs.Yaml.Outline
import Transplant.Proofs.Settings.File
import Transplant.Proofs.Tree.Patch
import Transplant.Proofs.Settings.Accepted
import Transplant.Proofs.Workflow.Continuation
import Transplant.Proofs.Text.Lines
import Transplant.Proofs.Text.Utf8
import Transplant.Proofs.Tree.Conflict
import Transplant.Proofs.Tree.Arguments
import Transplant.Proofs.Data.Prune
import Transplant.Proofs.Schema.Gathered
import Transplant.Proofs.Settings.Environment
import Transplant.Proofs.Settings.Exported
import Transplant.Proofs.Terminal.Cells
import Transplant.Proofs.Terminal.Wrap
import Transplant.Proofs.Terminal.Escape
import Transplant.Proofs.Console.Screen
import Transplant.Proofs.Command.Keeps
import Transplant.Proofs.Command.Excuse
import Transplant.Proofs.Outcome
import Transplant.Proofs.Workflow.View
import Transplant.Proofs.Tree.Ceiling
import Transplant.Proofs.Log.Sink
