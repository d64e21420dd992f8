import Vigil.Agent.Codec
import Vigil.Agent.Command
import Vigil.Agent.Descriptor
import Vigil.Agent.Registry
import Vigil.Agent.Target
import Vigil.Audit.Log
import Vigil.Bus.Hub
import Vigil.Bus.Message
import Vigil.CommandLine.Arguments
import Vigil.CommandLine.Program
import Vigil.Config.Merge
import Vigil.Config.Setting
import Vigil.Config.Settings
import Vigil.Config.Sources
import Vigil.Decimal.Binary
import Vigil.Decimal.Shortest
import Vigil.Decimal.Reading
import Vigil.Document.Record
import Vigil.Finding.Basic
import Vigil.Finding.Codec
import Vigil.Finding.Correlate
import Vigil.Finding.Location
import Vigil.Finding.Normalize
import Vigil.Finding.Raw
import Vigil.Finding.Severity
import Vigil.Finding.Wrapper
import Vigil.Ini.Reader
import Vigil.Json.Document
import Vigil.Json.Numeral
import Vigil.Json.Parser
import Vigil.Json.Printer
import Vigil.Json.Tree
import Vigil.Json5.Reader
import Vigil.Main
import Vigil.OrderedSet
import Vigil.Path
import Vigil.Pattern.Basic
import Vigil.Pattern.Bracket
import Vigil.Pattern.CharSet
import Vigil.Pattern.Repertoire
import Vigil.Pattern.Escape
import Vigil.Pattern.Flags
import Vigil.Pattern.Machine
import Vigil.Pattern.Match
import Vigil.Pattern.Parser
import Vigil.Pattern.Property.Binary
import Vigil.Pattern.Property.Break
import Vigil.Pattern.Property.Edition
import Vigil.Pattern.Property.Named
import Vigil.Pattern.Property.Script
import Vigil.Pattern.Property.Shared
import Vigil.Pattern.Property.Spans
import Vigil.Pattern.Trie
import Vigil.Program.Bytes
import Vigil.Program.Execution
import Vigil.Program.FileSystem
import Vigil.Program.Format.Layout
import Vigil.Program.Format.Numeral
import Vigil.Program.Format.Printf
import Vigil.Program.Permissions
import Vigil.Program.Shell.Arithmetic
import Vigil.Program.Shell.Builtin
import Vigil.Program.Shell.Condition
import Vigil.Program.Shell.Environment
import Vigil.Program.Shell.Expand
import Vigil.Program.Shell.Fields
import Vigil.Program.Shell.Lookup
import Vigil.Program.Shell.Options
import Vigil.Program.Shell.Parser
import Vigil.Program.Shell.Pattern
import Vigil.Program.Shell.State
import Vigil.Program.Shell.Processes
import Vigil.Program.Shell.Redirect
import Vigil.Program.Shell.Run
import Vigil.Program.Shell.Source
import Vigil.Program.Shell.Syntax
import Vigil.Program.Signal
import Vigil.Program.Tool.Basic
import Vigil.Program.Tool.Files
import Vigil.Program.Tool.Index
import Vigil.Program.Tool.Output
import Vigil.Program.Tool.Text
import Vigil.Proofs.Bus.Delivery
import Vigil.Proofs.Bus.History
import Vigil.Proofs.Correlate.Chain
import Vigil.Proofs.Correlate.Cluster
import Vigil.Proofs.Correlate.Idempotent
import Vigil.Proofs.Correlate.Merge
import Vigil.Proofs.Correlate.Order
import Vigil.Proofs.Exact
import Vigil.Proofs.Normalize.Identity
import Vigil.Proofs.Processing
import Vigil.Proofs.Related
import Vigil.Proofs.Run.Account
import Vigil.Proofs.Run.Bookkeeping
import Vigil.Proofs.Run.Cancellation
import Vigil.Proofs.Run.Endings
import Vigil.Proofs.Run.Machine
import Vigil.Proofs.Run.Publication
import Vigil.Proofs.Run.Settlement
import Vigil.Proofs.Run.Stages
import Vigil.Proofs.Run.Statuses
import Vigil.Proofs.Triage.Calls
import Vigil.Proofs.Triage.Fallback
import Vigil.Proofs.Triage.Interleaving
import Vigil.Proofs.Triage.Review
import Vigil.Proofs.Triage.Spending
import Vigil.Proofs.Triage.Steps
import Vigil.Proofs.Triage.Trail
import Vigil.Quantity
import Vigil.Ron.Reader
import Vigil.Ron.Scalar
import Vigil.Run.Basic
import Vigil.Run.Cancellation
import Vigil.Run.Config
import Vigil.Run.Dispatch
import Vigil.Run.Orchestrator
import Vigil.Run.Permits
import Vigil.Run.Phase
import Vigil.Run.Result
import Vigil.Text.Blank
import Vigil.Text.CaseShifts
import Vigil.Text.CategorySpans
import Vigil.Text.Char
import Vigil.Text.Scan
import Vigil.Text.LetterSpans
import Vigil.Text.Lowercase
import Vigil.Text.Span
import Vigil.Text.Timestamp
import Vigil.Text.Utf8
import Vigil.Toml.Parser
import Vigil.Toml.Scalar
import Vigil.Toml.Table
import Vigil.Toml.Text
import Vigil.Triage.Config
import Vigil.Triage.Configured
import Vigil.Triage.Engine
import Vigil.Triage.Fixed
import Vigil.Triage.Inbox
import Vigil.Triage.Provider
import Vigil.Triage.Request
import Vigil.Triage.Rules
import Vigil.Triage.Service
import Vigil.Triage.Verdict
import Vigil.Url.Basic
import Vigil.Url.Host
import Vigil.Yaml.BlockScalar
import Vigil.Yaml.Cursor
import Vigil.Yaml.Document
import Vigil.Yaml.PlainScalar
import Vigil.Yaml.Quoted
import Vigil.Yaml.Scalar
import Vigil.Yaml.Tag
import Vigil.Yaml.Token
import Vigil.Proofs.Agent.Registry
import Vigil.Proofs.Run.Schedule
import Vigil.Proofs.Run.Ceiling
import Vigil.Proofs.Correlate.Evidence
import Vigil.Proofs.Correlate.Severity
import Vigil.Proofs.Correlate.Incremental
import Vigil.Proofs.Double
import Vigil.Proofs.Normalize.Acceptance
import Vigil.Proofs.Normalize.Batch
import Vigil.Proofs.Normalize.Uniqueness
import Vigil.Proofs.Triage.Gate
import Vigil.Proofs.Triage.Lifecycle
import Vigil.Proofs.Triage.Billing
import Vigil.Proofs.Text.SmallLetters
import Vigil.Proofs.Normalize.FixedPoint
import Vigil.Proofs.Triage.Suggestion
import Vigil.Proofs.Triage.Prose
import Vigil.Proofs.Finding.Wrapper
import Vigil.Proofs.Run.Silence
import Vigil.Proofs.Agent.Selection
import Vigil.Proofs.Bus.Retention
import Vigil.Proofs.Triage.Waiting
import Vigil.Proofs.Triage.Precedence
import Vigil.Proofs.Pattern.Search
import Vigil.Proofs.Pattern.Meaning
import Vigil.Proofs.Text.CaseFolding
import Vigil.Proofs.Triage.Signatures
import Vigil.Proofs.Triage.Paths
import Vigil.Proofs.Agent.Language
import Vigil.Proofs.Agent.Instances
import Vigil.Proofs.CommandLine.Grammar
import Vigil.Proofs.Finding.RoundTrip
import Vigil.Proofs.Triage.Context
import Vigil.Proofs.Config.Defaults
