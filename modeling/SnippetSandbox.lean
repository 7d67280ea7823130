import SnippetSandbox.Analysis.Model
import SnippetSandbox.Config.Basic
import SnippetSandbox.Config.Printer
import SnippetSandbox.Config.Reader
import SnippetSandbox.Config.Store
import SnippetSandbox.Console.Arguments
import SnippetSandbox.Console.Command
import SnippetSandbox.Console.Style
import SnippetSandbox.Console.Transcript
import SnippetSandbox.Decimal.Binary
import SnippetSandbox.Decimal.Rounding
import SnippetSandbox.Decimal.Shortest
import SnippetSandbox.Failure
import SnippetSandbox.FileSystem.Cause
import SnippetSandbox.FileSystem.Disk
import SnippetSandbox.FileSystem.Path
import SnippetSandbox.FileSystem.Rearrange
import SnippetSandbox.FileSystem.Resolve
import SnippetSandbox.FileSystem.Tree
import SnippetSandbox.Flags
import SnippetSandbox.Instances
import SnippetSandbox.Json.Number
import SnippetSandbox.Json.Problem
import SnippetSandbox.Json.Reader
import SnippetSandbox.Json.Skip
import SnippetSandbox.Json.Text
import SnippetSandbox.Kernel.Program
import SnippetSandbox.Kernel.Signal
import SnippetSandbox.Kernel.Simulation
import SnippetSandbox.Kernel.System
import SnippetSandbox.Main
import SnippetSandbox.Proofs.Config.Members
import SnippetSandbox.Proofs.Config.RoundTrip
import SnippetSandbox.Proofs.Config.Shapes
import SnippetSandbox.Proofs.Config.Stored
import SnippetSandbox.Proofs.Config.Torn
import SnippetSandbox.Proofs.Console.Exclusion
import SnippetSandbox.Proofs.Console.ExitStatus
import SnippetSandbox.Proofs.Console.Refusal
import SnippetSandbox.Proofs.Console.Updates
import SnippetSandbox.Proofs.FileSystem.Absolute
import SnippetSandbox.Proofs.FileSystem.Path
import SnippetSandbox.Proofs.FileSystem.Resolve
import SnippetSandbox.Proofs.Flags
import SnippetSandbox.Proofs.Kernel.Family
import SnippetSandbox.Proofs.Run.Classpath
import SnippetSandbox.Proofs.Run.Completion
import SnippetSandbox.Proofs.Run.Course
import SnippetSandbox.Proofs.Run.FreshLog
import SnippetSandbox.Proofs.Run.Handover
import SnippetSandbox.Proofs.Run.Keeping
import SnippetSandbox.Proofs.Run.Outcome
import SnippetSandbox.Proofs.Run.Persistence
import SnippetSandbox.Proofs.Run.Stopping
import SnippetSandbox.Proofs.Run.Synchronization
import SnippetSandbox.Proofs.Source.Preface
import SnippetSandbox.Proofs.Supervision.Deadline
import SnippetSandbox.Proofs.Supervision.Descendants
import SnippetSandbox.Proofs.Supervision.Patience
import SnippetSandbox.Proofs.Supervision.Waiting
import SnippetSandbox.Proofs.Toolchain
import SnippetSandbox.Proofs.Workspace.Additions
import SnippetSandbox.Proofs.Workspace.Anchored
import SnippetSandbox.Proofs.Workspace.Emptying
import SnippetSandbox.Proofs.Workspace.Location
import SnippetSandbox.Proofs.Workspace.Readiness
import SnippetSandbox.Proofs.Workspace.Reset
import SnippetSandbox.Proofs.Workspace.Retry
import SnippetSandbox.Proofs.Workspace.Unhindered
import SnippetSandbox.Run.Classpath
import SnippetSandbox.Run.Collaborators
import SnippetSandbox.Run.Event
import SnippetSandbox.Run.Journal
import SnippetSandbox.Run.Outcome
import SnippetSandbox.Run.Registration
import SnippetSandbox.Run.Sandbox
import SnippetSandbox.Run.Session
import SnippetSandbox.Run.Stage
import SnippetSandbox.Run.Tools
import SnippetSandbox.Shell.Arithmetic
import SnippetSandbox.Shell.Builtin
import SnippetSandbox.Shell.Condition
import SnippetSandbox.Shell.Directory
import SnippetSandbox.Shell.Expand
import SnippetSandbox.Shell.Format
import SnippetSandbox.Shell.Input
import SnippetSandbox.Shell.Installation
import SnippetSandbox.Shell.Jobs
import SnippetSandbox.Shell.Launch
import SnippetSandbox.Shell.Naming
import SnippetSandbox.Shell.Number
import SnippetSandbox.Shell.Options
import SnippetSandbox.Shell.Pattern
import SnippetSandbox.Shell.Reader
import SnippetSandbox.Shell.Redirect
import SnippetSandbox.Shell.Run
import SnippetSandbox.Shell.Search
import SnippetSandbox.Shell.Start
import SnippetSandbox.Shell.State
import SnippetSandbox.Shell.Syntax
import SnippetSandbox.Shell.Traps
import SnippetSandbox.Source.Comment
import SnippetSandbox.Source.EntryPoint
import SnippetSandbox.Source.Name
import SnippetSandbox.Source.Snippet
import SnippetSandbox.Supervision.Bounded
import SnippetSandbox.Supervision.Child
import SnippetSandbox.Supervision.Wait
import SnippetSandbox.Task
import SnippetSandbox.Text.Blank
import SnippetSandbox.Text.Digits
import SnippetSandbox.Text.Expression
import SnippetSandbox.Text.Letter
import SnippetSandbox.Text.Lines
import SnippetSandbox.Text.Printable
import SnippetSandbox.Text.Quoted
import SnippetSandbox.Text.Range
import SnippetSandbox.Text.Raw
import SnippetSandbox.Text.Utf8
import SnippetSandbox.Time.Span
import SnippetSandbox.Toolchain
import SnippetSandbox.Utility.Catalogue
import SnippetSandbox.Utility.Copying
import SnippetSandbox.Utility.Dates
import SnippetSandbox.Utility.Directories
import SnippetSandbox.Utility.Exchange
import SnippetSandbox.Utility.Execute
import SnippetSandbox.Utility.Finding
import SnippetSandbox.Utility.Formatting
import SnippetSandbox.Utility.Image
import SnippetSandbox.Utility.Links
import SnippetSandbox.Utility.Listing
import SnippetSandbox.Utility.Mode
import SnippetSandbox.Utility.Moving
import SnippetSandbox.Utility.Options
import SnippetSandbox.Utility.PathName
import SnippetSandbox.Utility.Permissions
import SnippetSandbox.Utility.Placement
import SnippetSandbox.Utility.Quoting
import SnippetSandbox.Utility.Removal
import SnippetSandbox.Utility.Report
import SnippetSandbox.Utility.Sequence
import SnippetSandbox.Utility.Sorting
import SnippetSandbox.Utility.Streams
import SnippetSandbox.Utility.Surroundings
import SnippetSandbox.Utility.Truth
import SnippetSandbox.Utility.Version
import SnippetSandbox.Utility.Wording
import SnippetSandbox.Utility.Words
import SnippetSandbox.Workspace.Layout
import SnippetSandbox.Workspace.Lock
import SnippetSandbox.Workspace.Ready
import SnippetSandbox.Workspace.Sample
import SnippetSandbox.Workspace.Seed
