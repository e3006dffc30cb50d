import DetectionMerge.Character.Age
import DetectionMerge.Character.Binary
import DetectionMerge.Character.Category
import DetectionMerge.Character.Fold
import DetectionMerge.Character.Property
import DetectionMerge.Character.Script
import DetectionMerge.Character.Segment
import DetectionMerge.Character.Set
import DetectionMerge.CommandLine.Filter
import DetectionMerge.CommandLine.Options
import DetectionMerge.Configuration
import DetectionMerge.Evaluation.Evaluator
import DetectionMerge.Evaluation.Program
import DetectionMerge.Folder.Annotations
import DetectionMerge.Folder.Entry
import DetectionMerge.Folder.Merge
import DetectionMerge.Folder.Results
import DetectionMerge.Host.Disk
import DetectionMerge.Host.Path
import DetectionMerge.Host.Process
import DetectionMerge.Host.Tree
import DetectionMerge.Json.Document
import DetectionMerge.Json.Fields
import DetectionMerge.Json.Layout
import DetectionMerge.Json.Lexer
import DetectionMerge.Json.Token
import DetectionMerge.Json.Value
import DetectionMerge.Main
import DetectionMerge.Notice
import DetectionMerge.Number.Binary64
import DetectionMerge.Number.Decimal
import DetectionMerge.Number.Shortest
import DetectionMerge.Pattern.Basic
import DetectionMerge.Pattern.Bracket
import DetectionMerge.Pattern.Cursor
import DetectionMerge.Pattern.Escape
import DetectionMerge.Pattern.Meaning
import DetectionMerge.Pattern.Mistake
import DetectionMerge.Pattern.Reader
import DetectionMerge.Pattern.Search
import DetectionMerge.Pattern.Size
import DetectionMerge.Pattern.Syntax
import DetectionMerge.Pattern.Text
import DetectionMerge.Proofs.CommandLine.Defects
import DetectionMerge.Proofs.CommandLine.Items
import DetectionMerge.Proofs.CommandLine.Options
import DetectionMerge.Proofs.CommandLine.Presentation
import DetectionMerge.Proofs.CommandLine.Switches
import DetectionMerge.Proofs.CommandLine.Values
import DetectionMerge.Proofs.CommandLine.Words
import DetectionMerge.Proofs.Configuration
import DetectionMerge.Proofs.Evaluation.FailureReason
import DetectionMerge.Proofs.Evaluation.Output
import DetectionMerge.Proofs.Evaluation.Requests
import DetectionMerge.Proofs.Folder.Additions
import DetectionMerge.Proofs.Folder.Annotations
import DetectionMerge.Proofs.Folder.Blocks
import DetectionMerge.Proofs.Folder.Contribution
import DetectionMerge.Proofs.Folder.Listing
import DetectionMerge.Proofs.Folder.Merge
import DetectionMerge.Proofs.Folder.ReadBack
import DetectionMerge.Proofs.Folder.ResultsText
import DetectionMerge.Proofs.Folder.RoundTrip
import DetectionMerge.Proofs.Folder.Saving
import DetectionMerge.Proofs.Host.Again
import DetectionMerge.Proofs.Host.Directories
import DetectionMerge.Proofs.Host.Elsewhere
import DetectionMerge.Proofs.Host.Order
import DetectionMerge.Proofs.Host.Replace
import DetectionMerge.Proofs.Host.Way
import DetectionMerge.Proofs.Json.Fields
import DetectionMerge.Proofs.Json.Grammar
import DetectionMerge.Proofs.Json.Literal
import DetectionMerge.Proofs.Json.Numeral
import DetectionMerge.Proofs.Json.Phase
import DetectionMerge.Proofs.Json.Spelling
import DetectionMerge.Proofs.Json.Tokens
import DetectionMerge.Proofs.Json.Undecodable
import DetectionMerge.Proofs.Number.Difference
import DetectionMerge.Proofs.Number.Nearest
import DetectionMerge.Proofs.Number.Rounding
import DetectionMerge.Proofs.Number.Shortest
import DetectionMerge.Proofs.Number.Truncation
import DetectionMerge.Proofs.Record.Index
import DetectionMerge.Proofs.Record.Label
import DetectionMerge.Proofs.Record.Respelling
import DetectionMerge.Proofs.Run.Alike
import DetectionMerge.Proofs.Run.Presentation
import DetectionMerge.Proofs.Run.Program
import DetectionMerge.Proofs.Run.Repetition
import DetectionMerge.Proofs.Run.Report
import DetectionMerge.Proofs.Run.Settings
import DetectionMerge.Proofs.Run.Stages
import DetectionMerge.Proofs.Run.Usage
import DetectionMerge.Proofs.Scores.Headlines
import DetectionMerge.Proofs.Scores.Layout
import DetectionMerge.Proofs.Scores.Lines
import DetectionMerge.Proofs.Scores.Parts
import DetectionMerge.Proofs.Scores.Reading
import DetectionMerge.Proofs.Scores.Report
import DetectionMerge.Proofs.Scores.Table
import DetectionMerge.Proofs.Text.Classes
import DetectionMerge.Proofs.Text.LastLine
import DetectionMerge.Proofs.Text.Lines
import DetectionMerge.Proofs.Text.LossyDecoding
import DetectionMerge.Proofs.Text.System
import DetectionMerge.Proofs.Text.Utf8
import DetectionMerge.Proofs.Traversal
import DetectionMerge.Record.Category
import DetectionMerge.Record.Detection
import DetectionMerge.Record.Image
import DetectionMerge.Run.Machine
import DetectionMerge.Run.Printed
import DetectionMerge.Run.Program
import DetectionMerge.Run.Stages
import DetectionMerge.Scores.Row
import DetectionMerge.Scores.Summary
import DetectionMerge.Shell.Builtin
import DetectionMerge.Shell.Command
import DetectionMerge.Shell.Execution
import DetectionMerge.Shell.Field
import DetectionMerge.Shell.Glob
import DetectionMerge.Shell.Launcher
import DetectionMerge.Shell.Lookup
import DetectionMerge.Shell.Octets
import DetectionMerge.Shell.Reader
import DetectionMerge.Shell.Session
import DetectionMerge.Shell.Tool.Basic
import DetectionMerge.Shell.Tool.Edit
import DetectionMerge.Shell.Tool.Files
import DetectionMerge.Shell.Tool.Lines
import DetectionMerge.Shell.Tool.Reckoning
import DetectionMerge.Shell.Tool.Search
import DetectionMerge.Shell.Tool.Testing
import DetectionMerge.Shell.Tool.Writing
import DetectionMerge.Shell.Tools
import DetectionMerge.Shell.Value
import DetectionMerge.Text.Blank
import DetectionMerge.Text.Digit
import DetectionMerge.Text.Lines
import DetectionMerge.Text.Quoted
import DetectionMerge.Text.Ranges
import DetectionMerge.Text.Split
import DetectionMerge.Text.System
import DetectionMerge.Text.Terminal
import DetectionMerge.Text.Utf8
import DetectionMerge.Text.Word
import DetectionMerge.Toml.Complaint
import DetectionMerge.Toml.Document
import DetectionMerge.Toml.Scalar
import DetectionMerge.Toml.Text
import DetectionMerge.Toml.Value
