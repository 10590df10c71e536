import Linewise.Assembler
import Linewise.Batch
import Linewise.CommandLine.Appearance
import Linewise.CommandLine.Arguments
import Linewise.CommandLine.Command
import Linewise.CommandLine.Console
import Linewise.CommandLine.Conversions
import Linewise.CommandLine.Ending
import Linewise.CommandLine.Help
import Linewise.CommandLine.Session
import Linewise.CommandLine.Settings
import Linewise.Config.Basic
import Linewise.Config.Checked
import Linewise.Config.Default
import Linewise.Config.Document
import Linewise.Config.Draft
import Linewise.Config.Sources
import Linewise.Config.Tables
import Linewise.Conversion
import Linewise.Edit.Calls
import Linewise.Edit.Steps
import Linewise.Edit.Words
import Linewise.ExitCode
import Linewise.FileTree
import Linewise.Indent
import Linewise.Log
import Linewise.Main
import Linewise.Number.Binary64
import Linewise.Number.Integer
import Linewise.Number.Shortest
import Linewise.Path
import Linewise.Pattern.Basic
import Linewise.Pattern.CharSet
import Linewise.Pattern.Escape
import Linewise.Pattern.Fault
import Linewise.Pattern.Matcher
import Linewise.Pattern.Opening
import Linewise.Pattern.Pieces
import Linewise.Pattern.Reader
import Linewise.Pattern.Reading
import Linewise.Shape
import Linewise.Style
import Linewise.Table
import Linewise.Terminator
import Linewise.Text.Basic
import Linewise.Text.Blank
import Linewise.Text.Digit
import Linewise.Text.LetterCase
import Linewise.Text.Newline
import Linewise.Text.Printable
import Linewise.Text.Quoted
import Linewise.Text.Ranges
import Linewise.Text.Utf8
import Linewise.Text.Utf8.Blocks
import Linewise.Text.Utf8.RoundTrip
import Linewise.Text.Word
import Linewise.Toml.Body
import Linewise.Toml.Fault
import Linewise.Toml.Key
import Linewise.Toml.Moment
import Linewise.Toml.Nested
import Linewise.Toml.Quoted
import Linewise.Toml.Reader
import Linewise.Toml.Scalar
import Linewise.Toml.Section
import Linewise.Toml.Value
import Linewise.Toml.Writer
import Linewise.Warning
import Linewise.Proofs.Outcomes
import Linewise.Proofs.Event
import Linewise.Proofs.History
import Linewise.Proofs.ContextInvariant
import Linewise.Proofs.ClosingDepths
import Linewise.Proofs.WellBracketed
import Linewise.Proofs.Accounting
import Linewise.Proofs.LayoutSkeleton
import Linewise.Proofs.Delayed
import Linewise.Proofs.Transparent
import Linewise.Proofs.Layers
import Linewise.Proofs.Sanitizing
import Linewise.Proofs.Faultless
import Linewise.Proofs.Toml.Strings
import Linewise.Proofs.Toml.Values
import Linewise.Proofs.Toml.Outlines
import Linewise.Proofs.Toml.Documents
import Linewise.Proofs.Refreezing
import Linewise.Proofs.Reload
import Linewise.Proofs.Layering
import Linewise.Proofs.Definitions
import Linewise.Proofs.FileTrees
import Linewise.Proofs.Separated
import Linewise.Proofs.TidyPaths
import Linewise.Proofs.Remarks
import Linewise.Proofs.Accepted
import Linewise.Proofs.Endings
import Linewise.Proofs.SettingsFaults
import Linewise.Proofs.Batches
import Linewise.Proofs.Destination
import Linewise.Proofs.EntryPoints
import Linewise.Proofs.InputFaults
import Linewise.Proofs.SecondPass
import Linewise.Proofs.ReleasedBlanks
import Linewise.Proofs.Freezing
import Linewise.Proofs.Restart
import Linewise.Proofs.ClosingLoop
import Linewise.Proofs.Pattern.Occurrences
import Linewise.Proofs.BareCalls
import Linewise.Proofs.Runs
import Linewise.Proofs.WholeWords
import Linewise.Proofs.WordBoundaries
import Linewise.Proofs.Pattern.Consumption
import Linewise.Proofs.Edits
import Linewise.Proofs.HeaderEdits
import Linewise.Proofs.Trimming
import Linewise.Proofs.Parameters
import Linewise.Proofs.DefinitionHeaders
import Linewise.Proofs.DispatchHistory
import Linewise.Proofs.DocumentFaults
import Linewise.Proofs.BlockStrings
import Linewise.Proofs.Pattern.Language
import Linewise.Proofs.Indentation
import Linewise.Proofs.FailedLines
import Linewise.Proofs.Parentheses
