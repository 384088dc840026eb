import Toolwrap.Argument.Basic
import Toolwrap.Argument.Read
import Toolwrap.Build
import Toolwrap.CallLog
import Toolwrap.CommandLine.Basic
import Toolwrap.CommandLine.Call
import Toolwrap.Component
import Toolwrap.Decimal
import Toolwrap.Docker.Basic
import Toolwrap.Docker.Layers
import Toolwrap.Fault
import Toolwrap.FileTree
import Toolwrap.Image
import Toolwrap.Job
import Toolwrap.Main
import Toolwrap.Memory
import Toolwrap.Moment
import Toolwrap.Origin
import Toolwrap.Path
import Toolwrap.Platform
import Toolwrap.Proofs.Arguments.Ambiguity
import Toolwrap.Proofs.Arguments.Consistency
import Toolwrap.Proofs.Checking.Bounds
import Toolwrap.Proofs.Images.References
import Toolwrap.Proofs.Injection.Frame
import Toolwrap.Proofs.Layering.Combining
import Toolwrap.Proofs.Memory.Agreement
import Toolwrap.Proofs.Memory.Defaults
import Toolwrap.Proofs.Memory.Floor
import Toolwrap.Proofs.Mounting.Absolute
import Toolwrap.Proofs.Mounting.Adding
import Toolwrap.Proofs.Mounting.Container
import Toolwrap.Proofs.Mounting.Layer
import Toolwrap.Proofs.Mounting.Normal
import Toolwrap.Proofs.Mounting.Pointing
import Toolwrap.Proofs.Mounting.Values
import Toolwrap.Proofs.Parsing.Layers
import Toolwrap.Proofs.Parsing.Names
import Toolwrap.Proofs.Parsing.Order
import Toolwrap.Proofs.Parsing.Positionals
import Toolwrap.Proofs.Quoting.Delimiters
import Toolwrap.Proofs.Quoting.Documents
import Toolwrap.Proofs.Quoting.Exact
import Toolwrap.Proofs.Quoting.Inverse
import Toolwrap.Proofs.Quoting.Lines
import Toolwrap.Proofs.Quoting.Printers
import Toolwrap.Proofs.Quoting.Splitting
import Toolwrap.Proofs.Releases.Delegation
import Toolwrap.Proofs.Releases.Pinning
import Toolwrap.Quoting
import Toolwrap.Release
import Toolwrap.Requirement
import Toolwrap.Resource
import Toolwrap.Shell.Arithmetic
import Toolwrap.Shell.Assignment
import Toolwrap.Shell.Braces
import Toolwrap.Shell.Builtin.Basic
import Toolwrap.Shell.Builtin.Control
import Toolwrap.Shell.Builtin.Declare
import Toolwrap.Shell.Builtin.Directory
import Toolwrap.Shell.Builtin.Events
import Toolwrap.Shell.Builtin.Input
import Toolwrap.Shell.Builtin.Output
import Toolwrap.Shell.Builtin.Settings
import Toolwrap.Shell.Builtin.Surroundings
import Toolwrap.Shell.Calculation
import Toolwrap.Shell.Calendar
import Toolwrap.Shell.Command
import Toolwrap.Shell.Condition
import Toolwrap.Shell.Edit.Basic
import Toolwrap.Shell.Edit.Cycle
import Toolwrap.Shell.Edit.Reader
import Toolwrap.Shell.Escape
import Toolwrap.Shell.Executable
import Toolwrap.Shell.Expansion
import Toolwrap.Shell.Fields
import Toolwrap.Shell.Format
import Toolwrap.Shell.Lookup
import Toolwrap.Shell.Menu
import Toolwrap.Shell.Numbering
import Toolwrap.Shell.Parameter
import Toolwrap.Shell.Pattern
import Toolwrap.Shell.Phrases
import Toolwrap.Shell.Printer
import Toolwrap.Shell.Process
import Toolwrap.Shell.Program
import Toolwrap.Shell.Reader
import Toolwrap.Shell.Redirection
import Toolwrap.Shell.Regex
import Toolwrap.Shell.Regex.Reader
import Toolwrap.Shell.Run
import Toolwrap.Shell.Session
import Toolwrap.Shell.Source
import Toolwrap.Shell.Spelling
import Toolwrap.Shell.Subshell
import Toolwrap.Shell.Switch
import Toolwrap.Shell.Task
import Toolwrap.Shell.Utility.Basic
import Toolwrap.Shell.Utility.Columns
import Toolwrap.Shell.Utility.Date
import Toolwrap.Shell.Utility.Edit
import Toolwrap.Shell.Utility.Figure
import Toolwrap.Shell.Utility.File
import Toolwrap.Shell.Utility.Find
import Toolwrap.Shell.Utility.Lines
import Toolwrap.Shell.Utility.Listing
import Toolwrap.Shell.Utility.Name
import Toolwrap.Shell.Utility.Order
import Toolwrap.Shell.Utility.Reckoning
import Toolwrap.Shell.Utility.Search
import Toolwrap.Shell.Utility.Starting
import Toolwrap.Shell.Variable
import Toolwrap.Text.Blank
import Toolwrap.Text.Bytes
import Toolwrap.Text.Quoted
import Toolwrap.Text.Unicode
import Toolwrap.Value
import Toolwrap.Workspace
import Toolwrap.Wrapper.Assembly
import Toolwrap.Wrapper.Functions
import Toolwrap.Wrapper.Help
import Toolwrap.Wrapper.Layer
import Toolwrap.Wrapper.Parsing
import Toolwrap.Wrapper.Phrases
import Toolwrap.Wrapper.Validation
import Toolwrap.Yaml.Content
import Toolwrap.Yaml.Flow
import Toolwrap.Yaml.Lexer
import Toolwrap.Yaml.Node
import Toolwrap.Yaml.Number
import Toolwrap.Yaml.Plain
import Toolwrap.Yaml.Scalar
import Toolwrap.Yaml.Tag
import Toolwrap.Yaml.Token
