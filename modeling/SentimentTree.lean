import SentimentTree.Aggregation.Contrast
import SentimentTree.Aggregation.Settings
import SentimentTree.Aggregation.Totals
import SentimentTree.Aggregation.Tree
import SentimentTree.Arguments.Basic
import SentimentTree.Arguments.Help
import SentimentTree.Arguments.Parse
import SentimentTree.Calendar.Date
import SentimentTree.Calendar.Frequency
import SentimentTree.Calendar.Timestamp
import SentimentTree.Calendar.TimestampText
import SentimentTree.Calendar.Weekday
import SentimentTree.Calendar.YearMonth
import SentimentTree.Classifier.Address
import SentimentTree.Classifier.Answer
import SentimentTree.Classifier.Batches
import SentimentTree.Classifier.Exchange
import SentimentTree.Classifier.HttpText
import SentimentTree.Classifier.Prompt
import SentimentTree.Config.Basic
import SentimentTree.Config.Document
import SentimentTree.Config.Merge
import SentimentTree.Csv.Records
import SentimentTree.Decimal.Binary
import SentimentTree.Decimal.Layout
import SentimentTree.Decimal.Reader
import SentimentTree.Decimal.Shortest
import SentimentTree.Hierarchy.Basic
import SentimentTree.Hierarchy.Document
import SentimentTree.Hierarchy.Validity
import SentimentTree.HostName.Basic
import SentimentTree.HostName.DirectionTable
import SentimentTree.HostName.Groups
import SentimentTree.HostName.JoiningTable
import SentimentTree.HostName.Label
import SentimentTree.HostName.MappingTable
import SentimentTree.HostName.Number
import SentimentTree.HostName.Punycode
import SentimentTree.Json.Reader
import SentimentTree.Json.Token
import SentimentTree.Json.Value
import SentimentTree.Json.Writer
import SentimentTree.Log
import SentimentTree.Main
import SentimentTree.Message.Scored
import SentimentTree.Message.Sentiment
import SentimentTree.Numeric.Arithmetic
import SentimentTree.Numeric.Fused
import SentimentTree.Numeric.LogOnePlus
import SentimentTree.Proofs.Aggregation.Contrast
import SentimentTree.Proofs.Aggregation.Months
import SentimentTree.Proofs.Aggregation.RoundTrip
import SentimentTree.Proofs.Aggregation.Summary
import SentimentTree.Proofs.Aggregation.Totals
import SentimentTree.Proofs.Aggregation.Validity
import SentimentTree.Proofs.Calendar.Buckets
import SentimentTree.Proofs.Calendar.Civil
import SentimentTree.Proofs.Calendar.Spelling
import SentimentTree.Proofs.Classifier.Chunks
import SentimentTree.Proofs.Classifier.Completions
import SentimentTree.Proofs.Classifier.Pointwise
import SentimentTree.Proofs.Classifier.Scoring
import SentimentTree.Proofs.Decimal.Characters
import SentimentTree.Proofs.Decimal.DataText
import SentimentTree.Proofs.Decimal.Literal
import SentimentTree.Proofs.Decimal.Nearest
import SentimentTree.Proofs.Decimal.Parts
import SentimentTree.Proofs.Decimal.Shortest
import SentimentTree.Proofs.Hierarchy.Document
import SentimentTree.Proofs.Hierarchy.RoundTrip
import SentimentTree.Proofs.Hierarchy.Validity
import SentimentTree.Proofs.Json.Fields
import SentimentTree.Proofs.Json.Lexing
import SentimentTree.Proofs.Json.RoundTrip
import SentimentTree.Proofs.Numeric.Logarithm
import SentimentTree.Proofs.Numeric.Magnitude
import SentimentTree.Proofs.Numeric.Operations
import SentimentTree.Proofs.Numeric.Order
import SentimentTree.Proofs.Numeric.Packing
import SentimentTree.Proofs.Numeric.Rounding
import SentimentTree.Proofs.Numeric.UnitInterval
import SentimentTree.Proofs.Run.Stored
import SentimentTree.Proofs.Table.Row
import SentimentTree.Proofs.Word.Nesting
import SentimentTree.Proofs.Word.Produce
import SentimentTree.Proofs.Word.Scan
import SentimentTree.Run.Host
import SentimentTree.Run.Pipeline
import SentimentTree.Run.Problem
import SentimentTree.Run.Program
import SentimentTree.Run.Scene
import SentimentTree.Run.Store
import SentimentTree.Table.Document
import SentimentTree.Table.Flag
import SentimentTree.Table.Format
import SentimentTree.Table.Row
import SentimentTree.Table.Sheet
import SentimentTree.Text.Blank
import SentimentTree.Text.Canonical
import SentimentTree.Text.CanonicalTable
import SentimentTree.Text.Case
import SentimentTree.Text.CaseTable
import SentimentTree.Text.CodeRange
import SentimentTree.Text.Escaped
import SentimentTree.Text.EscapedTable
import SentimentTree.Text.Glyph
import SentimentTree.Text.Lines
import SentimentTree.Text.PercentEscape
import SentimentTree.Text.Radix
import SentimentTree.Toml.Document
import SentimentTree.Toml.Scalar
import SentimentTree.Toml.Value
import SentimentTree.Word.Check
import SentimentTree.Word.Geometry
import SentimentTree.Word.Produce
import SentimentTree.Proofs.Word.Decoding
import SentimentTree.Proofs.Classifier.Columns
import SentimentTree.Proofs.Run.Steps
import SentimentTree.Proofs.Run.Outcomes
import SentimentTree.Proofs.Run.Artifacts
import SentimentTree.Proofs.Word.Lengths
import SentimentTree.Proofs.Aggregation.Refusals
import SentimentTree.Proofs.Message.Scale
import SentimentTree.Proofs.Table.Conservation
import SentimentTree.Proofs.Numeric.Accumulation
import SentimentTree.Proofs.Table.Influence
import SentimentTree.Proofs.Classifier.Failures
import SentimentTree.Proofs.Calendar.Edges
import SentimentTree.Proofs.Word.Faults
import SentimentTree.Proofs.Classifier.Answers
import SentimentTree.Proofs.Classifier.Contract
import SentimentTree.Proofs.Aggregation.Order
import SentimentTree.Proofs.Table.Acceptance
import SentimentTree.Proofs.Classifier.Attempts
import SentimentTree.Proofs.Calendar.Timestamps
import SentimentTree.Proofs.Hierarchy.Order
import SentimentTree.Proofs.Aggregation.Settings
import SentimentTree.Proofs.Word.Sides
import SentimentTree.Proofs.Classifier.Prompts
import SentimentTree.Proofs.Aggregation.Stretch
import SentimentTree.Proofs.Csv.Spelling
import SentimentTree.Proofs.Decimal.Numeral
import SentimentTree.Proofs.Table.Cells
import SentimentTree.Proofs.Table.Formats
import SentimentTree.Proofs.Run.Tables
import SentimentTree.Proofs.Config.Merge
import SentimentTree.Proofs.Config.Removal
import SentimentTree.Proofs.Run.Report
