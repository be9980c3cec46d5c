import Inspection.Backend.Basic
import Inspection.Backend.Error
import Inspection.Backend.Scripted
import Inspection.Backend.Sysctl
import Inspection.Calendar
import Inspection.Catalog.Directory
import Inspection.Catalog.Glob
import Inspection.Catalog.Package
import Inspection.Catalog.Selection
import Inspection.Cluster.Config
import Inspection.Cluster.Notation.Cursor
import Inspection.Cluster.Notation.Document
import Inspection.Cluster.Notation.Fault
import Inspection.Cluster.Notation.Scalar
import Inspection.Cluster.Notation.Tag
import Inspection.Cluster.Notation.Tokens
import Inspection.Cluster.Notation.Value
import Inspection.Cluster.Setting
import Inspection.Cluster.Source
import Inspection.CommandLine.Assignment
import Inspection.CommandLine.Options
import Inspection.CommandLine.Program
import Inspection.Data.Basic
import Inspection.Data.Json
import Inspection.Data.Yaml
import Inspection.Decimal.Binary
import Inspection.Decimal.Layout
import Inspection.Decimal.Reader
import Inspection.Decimal.Shortest
import Inspection.Decimal.Stepwise
import Inspection.Files.Path
import Inspection.Files.Tree
import Inspection.Main
import Inspection.Node
import Inspection.Proofs.Backend.ParameterName
import Inspection.Proofs.Backend.Truth
import Inspection.Proofs.Catalog.Choice
import Inspection.Proofs.Catalog.Loaded
import Inspection.Proofs.Catalog.Packaged
import Inspection.Proofs.Catalog.TaskName
import Inspection.Proofs.CommandLine.Assignment
import Inspection.Proofs.Decimal.Integers
import Inspection.Proofs.Decimal.Rounding
import Inspection.Proofs.Except
import Inspection.Proofs.Files.Path
import Inspection.Proofs.Files.Tree
import Inspection.Proofs.Interrupt.Actions
import Inspection.Proofs.Interrupt.Waiting
import Inspection.Proofs.Keyed
import Inspection.Proofs.Report.Order
import Inspection.Proofs.Report.Status
import Inspection.Proofs.Run.Account
import Inspection.Proofs.Run.Assigned
import Inspection.Proofs.Run.Calls
import Inspection.Proofs.Run.Carried
import Inspection.Proofs.Run.Filed
import Inspection.Proofs.Run.InTurn
import Inspection.Proofs.Run.Interrupted
import Inspection.Proofs.Run.Outcome
import Inspection.Proofs.Run.Recomputed
import Inspection.Proofs.Run.References
import Inspection.Proofs.Run.Reporting
import Inspection.Proofs.Run.Respaced
import Inspection.Proofs.Run.Sequential
import Inspection.Proofs.Run.Slots
import Inspection.Proofs.Run.Steps
import Inspection.Proofs.Run.Tasks
import Inspection.Proofs.Run.Variables
import Inspection.Proofs.Schedule.Course
import Inspection.Proofs.Schedule.Invariant
import Inspection.Proofs.Schedule.Occupancy
import Inspection.Proofs.Shell.Words
import Inspection.Proofs.Sql.Redaction
import Inspection.Proofs.Task.Bounds
import Inspection.Proofs.Task.Coherent
import Inspection.Proofs.Task.Comparing
import Inspection.Proofs.Task.Defined
import Inspection.Proofs.Task.Fitting
import Inspection.Proofs.Task.Selected
import Inspection.Proofs.Template.Occurrences
import Inspection.Proofs.Template.Reference
import Inspection.Proofs.Template.Spacing
import Inspection.Proofs.Template.Substitution
import Inspection.Proofs.Text.Pieces
import Inspection.Proofs.Text.Runs
import Inspection.Proofs.Text.Trimming
import Inspection.Proofs.Version.Banner
import Inspection.Proofs.Version.Grammar
import Inspection.Proofs.Version.Order
import Inspection.Proofs.Version.ReadBack
import Inspection.Proofs.Version.Written
import Inspection.Proofs.View.Elements
import Inspection.Proofs.View.Lossless
import Inspection.Proofs.View.Markup
import Inspection.Proofs.View.Outline
import Inspection.Proofs.View.Page
import Inspection.Proofs.View.Plain
import Inspection.Proofs.View.Rows
import Inspection.Proofs.View.Shape
import Inspection.Proofs.View.Table
import Inspection.Proofs.View.Tags
import Inspection.Proofs.View.Unambiguous
import Inspection.Proofs.View.WellFormed
import Inspection.Proofs.View.XmlDocument
import Inspection.Proofs.Yaml.Reading
import Inspection.Report.Basic
import Inspection.Run.CatalogRun
import Inspection.Run.Interrupt
import Inspection.Run.NodeRun
import Inspection.Run.Schedule
import Inspection.Run.TaskRun
import Inspection.Shell.Alias
import Inspection.Shell.Arguments
import Inspection.Shell.Builtin
import Inspection.Shell.Command
import Inspection.Shell.Escape
import Inspection.Shell.Expand
import Inspection.Shell.Invoke
import Inspection.Shell.Jobs
import Inspection.Shell.Limits
import Inspection.Shell.Local
import Inspection.Shell.Number
import Inspection.Shell.Octets
import Inspection.Shell.Pattern
import Inspection.Shell.Place
import Inspection.Shell.Print
import Inspection.Shell.Programs.Basic
import Inspection.Shell.Programs.Call
import Inspection.Shell.Programs.Columns
import Inspection.Shell.Programs.Copies
import Inspection.Shell.Programs.Launch
import Inspection.Shell.Programs.Letters
import Inspection.Shell.Programs.Lines
import Inspection.Shell.Programs.Listing
import Inspection.Shell.Programs.Making
import Inspection.Shell.Programs.Names
import Inspection.Shell.Programs.Numbers
import Inspection.Shell.Programs.Order
import Inspection.Shell.Programs.Removing
import Inspection.Shell.Programs.Repeats
import Inspection.Shell.Programs.Sort
import Inspection.Shell.Programs.Trees
import Inspection.Shell.Reader
import Inspection.Shell.Reader.Basic
import Inspection.Shell.Reader.Surround
import Inspection.Shell.Reader.Token
import Inspection.Shell.Real
import Inspection.Shell.Remote
import Inspection.Shell.Signal
import Inspection.Shell.State
import Inspection.Shell.Sum
import Inspection.Shell.Test
import Inspection.Shell.Utility
import Inspection.Sql.Endpoint
import Inspection.Sql.Server
import Inspection.Sql.Sqlite
import Inspection.Sql.Sqlite.Storage
import Inspection.Task.Basic
import Inspection.Task.Definition
import Inspection.Task.Evaluation
import Inspection.Template
import Inspection.Text.Blank
import Inspection.Text.Cased
import Inspection.Text.CodeRange
import Inspection.Text.Lower
import Inspection.Text.Numeral
import Inspection.Text.Octets
import Inspection.Text.Percent
import Inspection.Text.Printable
import Inspection.Text.Quoted
import Inspection.Text.Slice
import Inspection.Text.Split
import Inspection.Text.Width
import Inspection.Version.Basic
import Inspection.Version.Range
import Inspection.View.Export
import Inspection.View.Format
import Inspection.View.Html
import Inspection.View.Listing
import Inspection.View.Markup
import Inspection.View.Rows
import Inspection.View.Style
import Inspection.View.Table
import Inspection.View.Terminal
import Inspection.View.Xml
import Inspection.Yaml.Atom
import Inspection.Yaml.Cursor
import Inspection.Yaml.Decode
import Inspection.Yaml.Document
import Inspection.Yaml.Node
import Inspection.Yaml.Scalar
import Inspection.Yaml.Token
import Inspection.Yaml.Tokens
import Inspection.Yaml.Value
