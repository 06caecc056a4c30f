import RequestFlow.Command.Arguments
import RequestFlow.Command.Clock
import RequestFlow.Command.Execute
import RequestFlow.Command.Output
import RequestFlow.Command.Report
import RequestFlow.Command.Vars
import RequestFlow.Dict
import RequestFlow.Document.Block
import RequestFlow.Document.Cell
import RequestFlow.Document.Error
import RequestFlow.Document.Groups
import RequestFlow.Document.Leaf
import RequestFlow.Document.Reader
import RequestFlow.Hook.Apply
import RequestFlow.Hook.Error
import RequestFlow.Hook.Eval
import RequestFlow.Hook.Expr
import RequestFlow.Hook.Function
import RequestFlow.Hook.Parser
import RequestFlow.Hook.Program
import RequestFlow.Hook.Token
import RequestFlow.Hook.World
import RequestFlow.Json.Basic
import RequestFlow.Json.Compare
import RequestFlow.Json.Printer
import RequestFlow.Json.Reader
import RequestFlow.JsonPath.Basic
import RequestFlow.JsonPath.Parser
import RequestFlow.Main
import RequestFlow.Number.Basic
import RequestFlow.Number.Binary64
import RequestFlow.Number.Literal
import RequestFlow.Number.Shortest
import RequestFlow.Pattern.Basic
import RequestFlow.Pattern.CharSet
import RequestFlow.Pattern.Parser
import RequestFlow.Pattern.Program
import RequestFlow.Pattern.Search
import RequestFlow.Plan.Basic
import RequestFlow.Plan.Text
import RequestFlow.Proofs.Command.Agreement
import RequestFlow.Proofs.Dict
import RequestFlow.Proofs.Document.Blocks
import RequestFlow.Proofs.Document.Cells
import RequestFlow.Proofs.Document.Faults
import RequestFlow.Proofs.Document.Lines
import RequestFlow.Proofs.Document.Markers
import RequestFlow.Proofs.Document.Names
import RequestFlow.Proofs.Document.Passages
import RequestFlow.Proofs.Document.Pool
import RequestFlow.Proofs.Hook.Comparison
import RequestFlow.Proofs.Hook.Complete
import RequestFlow.Proofs.Hook.Counters
import RequestFlow.Proofs.Hook.Descents
import RequestFlow.Proofs.Hook.Effects
import RequestFlow.Proofs.Hook.Evaluation
import RequestFlow.Proofs.Hook.Fits
import RequestFlow.Proofs.Hook.Grammar
import RequestFlow.Proofs.Hook.Headers
import RequestFlow.Proofs.Hook.Heights
import RequestFlow.Proofs.Hook.Integers
import RequestFlow.Proofs.Hook.Layout
import RequestFlow.Proofs.Hook.Nesting
import RequestFlow.Proofs.Hook.Octets
import RequestFlow.Proofs.Hook.Pieces
import RequestFlow.Proofs.Hook.Quotes
import RequestFlow.Proofs.Hook.Reading
import RequestFlow.Proofs.Hook.Safety
import RequestFlow.Proofs.Hook.Sound
import RequestFlow.Proofs.Hook.Statements
import RequestFlow.Proofs.Hook.Tracking
import RequestFlow.Proofs.Json.Canonical
import RequestFlow.Proofs.Json.Equality
import RequestFlow.Proofs.Number.Rounding
import RequestFlow.Proofs.Plan.Cycle
import RequestFlow.Proofs.Plan.Graph
import RequestFlow.Proofs.Plan.Levels
import RequestFlow.Proofs.Plan.Order
import RequestFlow.Proofs.Plan.Schedule
import RequestFlow.Proofs.Run.Accounting
import RequestFlow.Proofs.Run.Addresses
import RequestFlow.Proofs.Run.Cancellation
import RequestFlow.Proofs.Run.Dispatch
import RequestFlow.Proofs.Run.Flights
import RequestFlow.Proofs.Run.Leaf
import RequestFlow.Proofs.Run.Proceeds
import RequestFlow.Proofs.Run.Records
import RequestFlow.Proofs.Run.Reporting
import RequestFlow.Proofs.Run.Requests
import RequestFlow.Proofs.Run.Script
import RequestFlow.Proofs.Run.Stages
import RequestFlow.Proofs.Run.Steps
import RequestFlow.Proofs.Run.Undisturbed
import RequestFlow.Proofs.Template.Failures
import RequestFlow.Proofs.Template.Fields
import RequestFlow.Proofs.Template.Modes
import RequestFlow.Proofs.Template.Rewriting
import RequestFlow.Proofs.Template.Scan
import RequestFlow.Proofs.Template.Scopes
import RequestFlow.Proofs.Template.Simultaneous
import RequestFlow.Proofs.Template.Token
import RequestFlow.Proofs.Text.Octets
import RequestFlow.Proofs.Text.Utf8
import RequestFlow.Response
import RequestFlow.Run.Error
import RequestFlow.Run.Host
import RequestFlow.Run.Leaf
import RequestFlow.Run.Outgoing
import RequestFlow.Run.Record
import RequestFlow.Run.Runner
import RequestFlow.Template.Expand
import RequestFlow.Template.Token
import RequestFlow.Text.Blank
import RequestFlow.Text.CaseTable
import RequestFlow.Text.Casing
import RequestFlow.Text.Category.Letter
import RequestFlow.Text.Category.Mark
import RequestFlow.Text.Category.Numeral
import RequestFlow.Text.Category.Other
import RequestFlow.Text.Category.Punctuation
import RequestFlow.Text.Category.Symbol
import RequestFlow.Text.Folding
import RequestFlow.Text.Hex
import RequestFlow.Text.Property
import RequestFlow.Text.Runs
import RequestFlow.Text.Script
import RequestFlow.Text.Utf8
import RequestFlow.Text.Word
import RequestFlow.Url.Basic
import RequestFlow.Url.Domain
import RequestFlow.Url.Host
import RequestFlow.Url.Parser
import RequestFlow.Url.Percent
import RequestFlow.Yaml.Node
import RequestFlow.Yaml.Scalar
import RequestFlow.Yaml.Source
import RequestFlow.Yaml.Token
import RequestFlow.Yaml.Value
