import ConsumerCheck.Command
import ConsumerCheck.CommandLine.Completions
import ConsumerCheck.CommandLine.Invocation
import ConsumerCheck.CommandLine.Option
import ConsumerCheck.CommandLine.Parsing
import ConsumerCheck.CommandLine.Resolve
import ConsumerCheck.CommandLine.Run
import ConsumerCheck.Config.Basic
import ConsumerCheck.Config.Definitions
import ConsumerCheck.Config.Load
import ConsumerCheck.Config.Reading
import ConsumerCheck.CopyRule
import ConsumerCheck.ExampleBuild
import ConsumerCheck.Failure
import ConsumerCheck.FileSystem.Basic
import ConsumerCheck.FileSystem.Error
import ConsumerCheck.FileSystem.Operation
import ConsumerCheck.FileSystem.Resolve
import ConsumerCheck.FileSystem.Seed
import ConsumerCheck.FileSystem.Walk
import ConsumerCheck.Host.Context
import ConsumerCheck.Host.Description
import ConsumerCheck.Host.Launch
import ConsumerCheck.Host.Scripted
import ConsumerCheck.Host.Search
import ConsumerCheck.Journal
import ConsumerCheck.Json
import ConsumerCheck.Main
import ConsumerCheck.Options
import ConsumerCheck.Path.Basic
import ConsumerCheck.Path.Relative
import ConsumerCheck.Pattern
import ConsumerCheck.Proofs.Exchange
import ConsumerCheck.Proofs.FileSystem.Frame
import ConsumerCheck.Proofs.FileSystem.Resolution
import ConsumerCheck.Proofs.Path
import ConsumerCheck.Proofs.Verification
import ConsumerCheck.Report.Basic
import ConsumerCheck.Report.Duration
import ConsumerCheck.Report.Format
import ConsumerCheck.Report.Github
import ConsumerCheck.Report.Human
import ConsumerCheck.Report.Json
import ConsumerCheck.Settings.Basic
import ConsumerCheck.Settings.Names
import ConsumerCheck.Shell.Arithmetic
import ConsumerCheck.Shell.Builtin.Arguments
import ConsumerCheck.Shell.Builtin.Course
import ConsumerCheck.Shell.Builtin.Directory
import ConsumerCheck.Shell.Builtin.Names
import ConsumerCheck.Shell.Builtin.Output
import ConsumerCheck.Shell.Builtin.Signals
import ConsumerCheck.Shell.Builtin.Variables
import ConsumerCheck.Shell.Condition
import ConsumerCheck.Shell.Evaluate
import ConsumerCheck.Shell.Expansion
import ConsumerCheck.Shell.Fields
import ConsumerCheck.Shell.Floating
import ConsumerCheck.Shell.Glob
import ConsumerCheck.Shell.Grammar
import ConsumerCheck.Shell.Lookup
import ConsumerCheck.Shell.Machine
import ConsumerCheck.Shell.Mode
import ConsumerCheck.Shell.Number
import ConsumerCheck.Shell.Printing
import ConsumerCheck.Shell.Process
import ConsumerCheck.Shell.Program
import ConsumerCheck.Shell.Reading
import ConsumerCheck.Shell.Redirection
import ConsumerCheck.Shell.Run
import ConsumerCheck.Shell.Session
import ConsumerCheck.Shell.Start
import ConsumerCheck.Shell.Syntax
import ConsumerCheck.Shell.Token
import ConsumerCheck.Shell.Tools.Arguments
import ConsumerCheck.Shell.Tools.Environment
import ConsumerCheck.Shell.Tools.Files
import ConsumerCheck.Shell.Tools.Lines
import ConsumerCheck.Shell.Tools.Placing
import ConsumerCheck.Shell.Tools.Words
import ConsumerCheck.Shell.Word
import ConsumerCheck.SmokeTest
import ConsumerCheck.Staging
import ConsumerCheck.Text.Blank
import ConsumerCheck.Text.Digits
import ConsumerCheck.Text.Lines
import ConsumerCheck.Text.LowerCase
import ConsumerCheck.Text.LowerCase.Table
import ConsumerCheck.Text.Utf8
import ConsumerCheck.Toml.Document
import ConsumerCheck.Toml.Scalar
import ConsumerCheck.Toml.Value
import ConsumerCheck.Verification
import ConsumerCheck.World
import ConsumerCheck.Proofs.CommandLine.Layout
import ConsumerCheck.Proofs.CommandLine.Verdict
import ConsumerCheck.Proofs.Config.RepeatedLayer
import ConsumerCheck.Proofs.FileSystem.Directories
import ConsumerCheck.Proofs.FileSystem.Walk
import ConsumerCheck.Proofs.Launch
import ConsumerCheck.Proofs.Lookup
import ConsumerCheck.Proofs.Staging.CarryOut
import ConsumerCheck.Proofs.Staging.Effect
import ConsumerCheck.Proofs.Staging.Filtering
import ConsumerCheck.Proofs.Staging.Order
import ConsumerCheck.Proofs.Staging.Refusal
import ConsumerCheck.Proofs.Staging.Repetition
import ConsumerCheck.Proofs.BuildDirectory
import ConsumerCheck.Proofs.ExampleBuild
import ConsumerCheck.Proofs.ExampleBuild.Definitions
import ConsumerCheck.Proofs.ExampleBuild.Directories
import ConsumerCheck.Proofs.Report.Annotation
import ConsumerCheck.Proofs.Report.Contents
import ConsumerCheck.Proofs.Report.Github
import ConsumerCheck.Proofs.Report.Human
import ConsumerCheck.Proofs.Settings.CrossBuilding
import ConsumerCheck.Proofs.NotStarted
import ConsumerCheck.Proofs.SearchPath
import ConsumerCheck.Proofs.Settings.Overriding
import ConsumerCheck.Proofs.Settings.Reported
import ConsumerCheck.Proofs.Config.Merge
import ConsumerCheck.Proofs.Config.Monoid
import ConsumerCheck.Proofs.Config.Union
import ConsumerCheck.Proofs.Output
import ConsumerCheck.Proofs.Report.Accounting
import ConsumerCheck.Proofs.Text.Blank
