import TokenIntake.Check.Context
import TokenIntake.Check.Engine
import TokenIntake.Check.Options
import TokenIntake.Check.Request
import TokenIntake.Check.Rule
import TokenIntake.Check.Standard
import TokenIntake.Command.Help
import TokenIntake.Command.Inspect
import TokenIntake.Command.Instantiate
import TokenIntake.Command.MessageFile
import TokenIntake.Command.Program
import TokenIntake.Command.Run
import TokenIntake.Command.Session
import TokenIntake.Command.Syntax
import TokenIntake.Command.Terminal
import TokenIntake.Files
import TokenIntake.Json.Compact
import TokenIntake.Json.Error
import TokenIntake.Json.Escape
import TokenIntake.Json.Indented
import TokenIntake.Json.Reader
import TokenIntake.Log
import TokenIntake.Main
import TokenIntake.Message.Account
import TokenIntake.Message.Basic
import TokenIntake.Message.Check
import TokenIntake.Message.Decode
import TokenIntake.Message.Frozen
import TokenIntake.Message.Issue
import TokenIntake.Message.Schema
import TokenIntake.Message.Uint128
import TokenIntake.Message.Wire
import TokenIntake.Number.Binary64
import TokenIntake.Number.Notation
import TokenIntake.Number.Numeral
import TokenIntake.Number.Shortest
import TokenIntake.Proofs.Check.Account
import TokenIntake.Proofs.Check.Agreement
import TokenIntake.Proofs.Check.History
import TokenIntake.Proofs.Check.Influence
import TokenIntake.Proofs.Check.Making
import TokenIntake.Proofs.Check.Operation
import TokenIntake.Proofs.Check.Options
import TokenIntake.Proofs.Check.Record
import TokenIntake.Proofs.Check.Registry
import TokenIntake.Proofs.Check.Run
import TokenIntake.Proofs.Check.SingleRejection
import TokenIntake.Proofs.Check.Standard
import TokenIntake.Proofs.Check.Summary
import TokenIntake.Proofs.Check.SummaryLines
import TokenIntake.Proofs.Check.SymbolWarning
import TokenIntake.Proofs.Check.Verdict
import TokenIntake.Proofs.Command.Cap
import TokenIntake.Proofs.Command.Check
import TokenIntake.Proofs.Command.Engine
import TokenIntake.Proofs.Command.ExitCode
import TokenIntake.Proofs.Command.Independence
import TokenIntake.Proofs.Command.Key
import TokenIntake.Proofs.Command.Lines
import TokenIntake.Proofs.Command.MessageFile
import TokenIntake.Proofs.Command.Report
import TokenIntake.Proofs.Command.Run
import TokenIntake.Proofs.Command.Session
import TokenIntake.Proofs.Command.Terminal
import TokenIntake.Proofs.Command.Verbosity
import TokenIntake.Proofs.Except
import TokenIntake.Proofs.Json.Ascii
import TokenIntake.Proofs.Json.Carries
import TokenIntake.Proofs.Json.Compact
import TokenIntake.Proofs.Json.Data
import TokenIntake.Proofs.Json.Indented
import TokenIntake.Proofs.Json.ReadBack
import TokenIntake.Proofs.Json.Settled
import TokenIntake.Proofs.Json.Spelling
import TokenIntake.Proofs.Json.Writable
import TokenIntake.Proofs.Log
import TokenIntake.Proofs.Message.Decode
import TokenIntake.Proofs.Message.Grammar
import TokenIntake.Proofs.Message.Issues
import TokenIntake.Proofs.Message.Redraft
import TokenIntake.Proofs.Message.Symbol
import TokenIntake.Proofs.Message.Uint128
import TokenIntake.Proofs.Message.Wire
import TokenIntake.Proofs.Render.Lines
import TokenIntake.Proofs.Render.Rows
import TokenIntake.Proofs.Render.Shown
import TokenIntake.Proofs.Render.Table
import TokenIntake.Proofs.Settings.Environment
import TokenIntake.Proofs.Settings.Layers
import TokenIntake.Proofs.Settings.Merge
import TokenIntake.Proofs.Settings.MergeLaws
import TokenIntake.Proofs.Settings.Order
import TokenIntake.Proofs.Settings.Precedence
import TokenIntake.Proofs.Settings.Refusal
import TokenIntake.Proofs.Settings.Resolve
import TokenIntake.Proofs.Settings.Snapshot
import TokenIntake.Proofs.Settings.Whispers
import TokenIntake.Proofs.Text.Ascii
import TokenIntake.Proofs.Text.Digits
import TokenIntake.Proofs.Text.Lines
import TokenIntake.Proofs.Text.Pattern
import TokenIntake.Proofs.Text.Surrogates
import TokenIntake.Proofs.Text.Utf8
import TokenIntake.Proofs.Value.Assoc
import TokenIntake.Proofs.Value.Depth
import TokenIntake.Proofs.Value.Keyed
import TokenIntake.Proofs.Value.Reading
import TokenIntake.Proofs.Value.Sharing
import TokenIntake.Proofs.Yaml.Anchor
import TokenIntake.Proofs.Yaml.Ascii
import TokenIntake.Proofs.Yaml.Flat
import TokenIntake.Proofs.Yaml.Keyed
import TokenIntake.Proofs.Yaml.Word
import TokenIntake.Rejection
import TokenIntake.Render.Fault
import TokenIntake.Render.Format
import TokenIntake.Render.Table
import TokenIntake.Settings.Environment
import TokenIntake.Settings.Manager
import TokenIntake.Settings.Merge
import TokenIntake.Settings.Profile
import TokenIntake.Settings.Source
import TokenIntake.Text.Base64
import TokenIntake.Text.Basic
import TokenIntake.Text.CodePoint
import TokenIntake.Text.DecimalDigit
import TokenIntake.Text.LowerCase
import TokenIntake.Text.Pattern
import TokenIntake.Text.Printable
import TokenIntake.Text.Quoted
import TokenIntake.Text.Similarity
import TokenIntake.Text.Utf8
import TokenIntake.Value.Assoc
import TokenIntake.Value.Basic
import TokenIntake.Value.Depth
import TokenIntake.Value.Display
import TokenIntake.Value.Graph
import TokenIntake.Value.Mapping
import TokenIntake.Value.Pairs
import TokenIntake.Value.Reading
import TokenIntake.Value.Scalar
import TokenIntake.Value.Sharing
import TokenIntake.Value.Timestamp
import TokenIntake.Value.Unwritable
import TokenIntake.Yaml.Anchor
import TokenIntake.Yaml.Cursor
import TokenIntake.Yaml.Document
import TokenIntake.Yaml.Fault
import TokenIntake.Yaml.Pen
import TokenIntake.Yaml.Reader
import TokenIntake.Yaml.Resolve
import TokenIntake.Yaml.Scalar
import TokenIntake.Yaml.ScalarText
import TokenIntake.Yaml.Source
import TokenIntake.Yaml.Style
import TokenIntake.Yaml.Token
import TokenIntake.Yaml.Writer
