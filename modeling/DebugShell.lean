import DebugShell.Arguments
import DebugShell.Coercion
import DebugShell.Command
import DebugShell.Command.Action
import DebugShell.Config
import DebugShell.Config.Stored
import DebugShell.Console
import DebugShell.Dispatcher
import DebugShell.Expression
import DebugShell.Failure
import DebugShell.Gate
import DebugShell.Heap.Run
import DebugShell.Heap.Selection
import DebugShell.Heap.Strategy
import DebugShell.History
import DebugShell.Host
import DebugShell.Json
import DebugShell.Json.Decoder
import DebugShell.Json.Error
import DebugShell.Json.Reader
import DebugShell.Json.Skip
import DebugShell.Json.Tree
import DebugShell.Main
import DebugShell.NameMap
import DebugShell.Options.Error
import DebugShell.Options.Help
import DebugShell.Options.Matching
import DebugShell.Options.Spec
import DebugShell.Pattern
import DebugShell.Pattern.CharSet
import DebugShell.Pattern.Fault
import DebugShell.Pattern.Grouping
import DebugShell.Pattern.Meaning
import DebugShell.Pattern.Property
import DebugShell.Pattern.Scanner
import DebugShell.Pattern.Written
import DebugShell.Program
import DebugShell.Program.LogFilter
import DebugShell.Program.Request
import DebugShell.Proofs.Aliases
import DebugShell.Proofs.Arguments
import DebugShell.Proofs.BareEnter
import DebugShell.Proofs.Blank
import DebugShell.Proofs.BuiltinListing
import DebugShell.Proofs.CallSites
import DebugShell.Proofs.Calls
import DebugShell.Proofs.Categories
import DebugShell.Proofs.Coercion
import DebugShell.Proofs.Containment
import DebugShell.Proofs.CurrentFunction
import DebugShell.Proofs.DeadProcess
import DebugShell.Proofs.Decoding
import DebugShell.Proofs.Distances
import DebugShell.Proofs.Equipment
import DebugShell.Proofs.Evaluation
import DebugShell.Proofs.ForcedMode
import DebugShell.Proofs.Frame
import DebugShell.Proofs.Grammar
import DebugShell.Proofs.HeapCommands
import DebugShell.Proofs.HeapFailures
import DebugShell.Proofs.HeapStart
import DebugShell.Proofs.HexArguments
import DebugShell.Proofs.History
import DebugShell.Proofs.Invocation
import DebugShell.Proofs.JsonParts
import DebugShell.Proofs.JsonTexts
import DebugShell.Proofs.Layout
import DebugShell.Proofs.LineEnds
import DebugShell.Proofs.Lines
import DebugShell.Proofs.ListedNames
import DebugShell.Proofs.MarkedNames
import DebugShell.Proofs.Marks
import DebugShell.Proofs.Matching
import DebugShell.Proofs.Messages
import DebugShell.Proofs.NameMap
import DebugShell.Proofs.Numeral
import DebugShell.Proofs.OverrideScope
import DebugShell.Proofs.Overrides
import DebugShell.Proofs.Parsing
import DebugShell.Proofs.Quoting
import DebugShell.Proofs.ReadAlike
import DebugShell.Proofs.Readers
import DebugShell.Proofs.RecordTexts
import DebugShell.Proofs.RegisterMarks
import DebugShell.Proofs.Registry
import DebugShell.Proofs.Repeat
import DebugShell.Proofs.Roles
import DebugShell.Proofs.Scripts
import DebugShell.Proofs.Selection
import DebugShell.Proofs.SelectionReports
import DebugShell.Proofs.SettingOrder
import DebugShell.Proofs.SettingTexts
import DebugShell.Proofs.SettingValues
import DebugShell.Proofs.Settings
import DebugShell.Proofs.Sightings
import DebugShell.Proofs.SkippedTexts
import DebugShell.Proofs.SortedNames
import DebugShell.Proofs.StoredForms
import DebugShell.Proofs.StoredTexts
import DebugShell.Proofs.TextLines
import DebugShell.Proofs.Tokens
import DebugShell.Proofs.Transcript
import DebugShell.Proofs.ValueTexts
import DebugShell.Proofs.WholeWords
import DebugShell.Registers
import DebugShell.Registry
import DebugShell.Shell
import DebugShell.Shell.Commands
import DebugShell.Target
import DebugShell.Target.Stock
import DebugShell.Target.Stored
import DebugShell.Terminal.Printable
import DebugShell.Terminal.Style
import DebugShell.Text.Blank
import DebugShell.Text.CaseFold
import DebugShell.Text.Category
import DebugShell.Text.Category.Letters
import DebugShell.Text.Category.Marks
import DebugShell.Text.Category.Named
import DebugShell.Text.Category.Numbers
import DebugShell.Text.Category.Punctuation
import DebugShell.Text.Category.Separators
import DebugShell.Text.Category.Symbols
import DebugShell.Text.Literal
import DebugShell.Text.Numeral
import DebugShell.Text.Property
import DebugShell.Text.Quoting
import DebugShell.Text.Script
import DebugShell.Text.Shortest
import DebugShell.Text.Similarity
import DebugShell.Text.Visible
import DebugShell.Version
