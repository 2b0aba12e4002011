import Assay.Case.Artifact
import Assay.Case.Basic
import Assay.Case.Context
import Assay.Case.Outcome
import Assay.Case.Script
import Assay.Cli.Option
import Assay.Cli.Parser
import Assay.Cli.Program
import Assay.Cli.Usage
import Assay.Config
import Assay.Conformance
import Assay.Duration
import Assay.Error
import Assay.Fixture
import Assay.Host.Basic
import Assay.Host.Files
import Assay.Host.IoError
import Assay.Host.Path
import Assay.Host.Planting
import Assay.Host.Resolve
import Assay.Host.Search
import Assay.Host.Tree
import Assay.Json.Basic
import Assay.Main
import Assay.Number.Binary64
import Assay.Number.Decimal
import Assay.Proofs.Accounting
import Assay.Proofs.AddedFile
import Assay.Proofs.Aftermath
import Assay.Proofs.ArgumentList
import Assay.Proofs.ArgumentReading
import Assay.Proofs.ArtifactCase
import Assay.Proofs.CaseRecord
import Assay.Proofs.Cleanup
import Assay.Proofs.CodeText
import Assay.Proofs.Color
import Assay.Proofs.CommandFilter
import Assay.Proofs.Discovery
import Assay.Proofs.DiscoveryOrder
import Assay.Proofs.Execution
import Assay.Proofs.ExitZero
import Assay.Proofs.Footer
import Assay.Proofs.Independence
import Assay.Proofs.InvocationDump
import Assay.Proofs.JsonAcceptance
import Assay.Proofs.JsonNumber
import Assay.Proofs.JsonReader
import Assay.Proofs.JsonText
import Assay.Proofs.Listening
import Assay.Proofs.Program
import Assay.Proofs.ProgramSearch
import Assay.Proofs.Protocol
import Assay.Proofs.Removal
import Assay.Proofs.Restoration
import Assay.Proofs.RunDocument
import Assay.Proofs.Selection
import Assay.Proofs.Sinks
import Assay.Proofs.StreamFilter
import Assay.Proofs.Suffixes
import Assay.Proofs.SummaryLines
import Assay.Proofs.Truncation
import Assay.Proofs.Utf8
import Assay.Proofs.Validation
import Assay.Proofs.Verdict
import Assay.Report.Reporters
import Assay.Report.Paint
import Assay.Report.Summary
import Assay.Run.Policy
import Assay.Run.Report
import Assay.Run.Reporter
import Assay.Run.Runner
import Assay.Sandbox.Calendar
import Assay.Sandbox.Date
import Assay.Sandbox.Difference
import Assay.Sandbox.Host
import Assay.Sandbox.Kernel
import Assay.Sandbox.Library
import Assay.Sandbox.Mode
import Assay.Sandbox.Octets
import Assay.Sandbox.Regex
import Assay.Sandbox.Shell.Arithmetic
import Assay.Sandbox.Shell.Builtin.Directory
import Assay.Sandbox.Shell.Builtin.Limits
import Assay.Sandbox.Shell.Builtin.Names
import Assay.Sandbox.Shell.Builtin.Options
import Assay.Sandbox.Shell.Builtin.Process
import Assay.Sandbox.Shell.Builtin.Text
import Assay.Sandbox.Shell.Builtin.Variables
import Assay.Sandbox.Shell.Condition
import Assay.Sandbox.Shell.Eval
import Assay.Sandbox.Shell.Expansion
import Assay.Sandbox.Shell.Field
import Assay.Sandbox.Shell.Format
import Assay.Sandbox.Shell.Job
import Assay.Sandbox.Shell.Lexer
import Assay.Sandbox.Shell.Parser
import Assay.Sandbox.Shell.Pattern
import Assay.Sandbox.Shell.Real
import Assay.Sandbox.Shell.Redirection
import Assay.Sandbox.Shell.Search
import Assay.Sandbox.Shell.Start
import Assay.Sandbox.Shell.State
import Assay.Sandbox.Shell.Syntax
import Assay.Sandbox.Signal
import Assay.Sandbox.System
import Assay.Sandbox.Task
import Assay.Sandbox.Utility.Backup
import Assay.Sandbox.Utility.Cat
import Assay.Sandbox.Utility.Columns
import Assay.Sandbox.Utility.Compare
import Assay.Sandbox.Utility.Copy
import Assay.Sandbox.Utility.CopyOptions
import Assay.Sandbox.Utility.Count
import Assay.Sandbox.Utility.Diff
import Assay.Sandbox.Utility.DiffColumns
import Assay.Sandbox.Utility.DiffFormat
import Assay.Sandbox.Utility.DiffGroups
import Assay.Sandbox.Utility.DiffStyle
import Assay.Sandbox.Utility.DiffText
import Assay.Sandbox.Utility.Echo
import Assay.Sandbox.Utility.Head
import Assay.Sandbox.Utility.Link
import Assay.Sandbox.Utility.ListOptions
import Assay.Sandbox.Utility.Listing
import Assay.Sandbox.Utility.MakeDir
import Assay.Sandbox.Utility.Names
import Assay.Sandbox.Utility.Options
import Assay.Sandbox.Utility.Quote
import Assay.Sandbox.Utility.Session
import Assay.Sandbox.Utility.Size
import Assay.Sandbox.Utility.Touch
import Assay.Sandbox.Utility.Translate
import Assay.Sandbox.Utility.VersionOrder
import Assay.Text.Alphanumeric
import Assay.Text.Extender
import Assay.Text.LineBreak
import Assay.Text.LineClass
import Assay.Text.Lines
import Assay.Text.Printable
import Assay.Text.Shown
import Assay.Text.Similarity
import Assay.Text.Terminal
import Assay.Text.Utf8
import Assay.Text.Width
import Assay.Text.Wrap
import Assay.Tool.Basic
import Assay.Tool.Invocation
import Assay.Tool.Template
