import TradingSignals.Build.Outcome
import TradingSignals.Catalog.BuiltIn
import TradingSignals.Catalog.Capability
import TradingSignals.Catalog.Catalog
import TradingSignals.CommandLine.Command
import TradingSignals.CommandLine.Invocation
import TradingSignals.CommandLine.Words
import TradingSignals.Drafting.Chat
import TradingSignals.Drafting.Configuration
import TradingSignals.Drafting.ErrorBody
import TradingSignals.Drafting.Prompt
import TradingSignals.Drafting.Template
import TradingSignals.Environment.EnvFile
import TradingSignals.Environment.FileTree
import TradingSignals.Environment.Variables
import TradingSignals.Http.Routes
import TradingSignals.Http.StandIn
import TradingSignals.Json.Bytes
import TradingSignals.Json.Reader
import TradingSignals.Json.Value
import TradingSignals.Json.Writer
import TradingSignals.Main
import TradingSignals.Number.Binary64
import TradingSignals.Number.FloatText
import TradingSignals.Number.Numeral
import TradingSignals.Number.Shortest
import TradingSignals.Proofs.Build.Agreement
import TradingSignals.Proofs.Build.ArgRange
import TradingSignals.Proofs.Build.Delivery
import TradingSignals.Proofs.Build.Failure
import TradingSignals.Proofs.Build.Gate
import TradingSignals.Proofs.Build.Outcome
import TradingSignals.Proofs.Build.ResultText
import TradingSignals.Proofs.Build.RuleCodes
import TradingSignals.Proofs.Build.Spelling
import TradingSignals.Proofs.Build.Translation
import TradingSignals.Proofs.Catalog.Bounds
import TradingSignals.Proofs.Catalog.RegistryText
import TradingSignals.Proofs.Catalog.Resolution
import TradingSignals.Proofs.Drafting.Outcome
import TradingSignals.Proofs.Drafting.Prompt
import TradingSignals.Proofs.Drafting.Shape
import TradingSignals.Proofs.Drafting.Stages
import TradingSignals.Proofs.Environment.Loading
import TradingSignals.Proofs.Environment.Nearest
import TradingSignals.Proofs.Environment.PlainLines
import TradingSignals.Proofs.Http.Doors
import TradingSignals.Proofs.Json.Bytes
import TradingSignals.Proofs.Json.Loose
import TradingSignals.Proofs.Json.Numeral
import TradingSignals.Proofs.Json.Reading
import TradingSignals.Proofs.Json.Reread
import TradingSignals.Proofs.Json.Settled
import TradingSignals.Proofs.Json.Soundness
import TradingSignals.Proofs.Json.Spelled
import TradingSignals.Proofs.Json.Standard
import TradingSignals.Proofs.Json.Text
import TradingSignals.Proofs.Json.Value
import TradingSignals.Proofs.Number.Conversion
import TradingSignals.Proofs.Number.DecimalText
import TradingSignals.Proofs.Number.Digits
import TradingSignals.Proofs.Number.Place
import TradingSignals.Proofs.Number.Rounding
import TradingSignals.Proofs.Number.Shortest
import TradingSignals.Proofs.Related
import TradingSignals.Proofs.Schema.Decoded
import TradingSignals.Proofs.Schema.Faults
import TradingSignals.Proofs.Signal.Agreement
import TradingSignals.Proofs.Signal.Codes
import TradingSignals.Proofs.Signal.Compilation
import TradingSignals.Proofs.Signal.Key
import TradingSignals.Proofs.Signal.Nesting
import TradingSignals.Proofs.Signal.Records
import TradingSignals.Proofs.Signal.Replacement
import TradingSignals.Proofs.Signal.RoundTrip
import TradingSignals.Proofs.Signal.Wire
import TradingSignals.Proofs.Strategy.Agreement
import TradingSignals.Proofs.Strategy.Arguments
import TradingSignals.Proofs.Strategy.Decoding
import TradingSignals.Proofs.Strategy.Doors
import TradingSignals.Proofs.Strategy.Encoding
import TradingSignals.Proofs.Strategy.Position
import TradingSignals.Proofs.Strategy.Respelled
import TradingSignals.Proofs.Strategy.RoundTrip
import TradingSignals.Proofs.Strategy.Sameness
import TradingSignals.Proofs.Strategy.Schema
import TradingSignals.Proofs.Strategy.Shown
import TradingSignals.Proofs.Success
import TradingSignals.Proofs.Text.Lines
import TradingSignals.Proofs.Text.Utf8
import TradingSignals.Proofs.Validation.Agreement
import TradingSignals.Proofs.Validation.Bounds
import TradingSignals.Proofs.Validation.Exact
import TradingSignals.Proofs.Validation.Lacks
import TradingSignals.Proofs.Validation.Locality
import TradingSignals.Proofs.Validation.Passed
import TradingSignals.Proofs.Validation.Report
import TradingSignals.Proofs.Validation.Site
import TradingSignals.Proofs.Validation.Summary
import TradingSignals.Proofs.Validation.Totality
import TradingSignals.Proofs.Validation.Visit
import TradingSignals.Schema.Decoded
import TradingSignals.Schema.Fault
import TradingSignals.Signal.Codes
import TradingSignals.Signal.Compilation
import TradingSignals.Signal.Compiled
import TradingSignals.Signal.Decoding
import TradingSignals.Signal.Encoding
import TradingSignals.Strategy.Decoding
import TradingSignals.Strategy.Document
import TradingSignals.Strategy.Encoding
import TradingSignals.Strategy.Sameness
import TradingSignals.Strategy.Scalar
import TradingSignals.Text.Cased
import TradingSignals.Text.Character
import TradingSignals.Text.Encoding
import TradingSignals.Text.Lowercase
import TradingSignals.Text.LowercaseTable
import TradingSignals.Text.Printable
import TradingSignals.Text.Quoted
import TradingSignals.Text.Utf8
import TradingSignals.Validation.Defect
import TradingSignals.Validation.Finding
import TradingSignals.Validation.Problem
