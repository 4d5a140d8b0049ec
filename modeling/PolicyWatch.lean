import PolicyWatch.Alert
import PolicyWatch.CommandLine.Basic
import PolicyWatch.CommandLine.Options
import PolicyWatch.CompileError
import PolicyWatch.CompiledPolicy.Basic
import PolicyWatch.CompiledPolicy.Matching
import PolicyWatch.Decoding
import PolicyWatch.Detector.Basic
import PolicyWatch.Detector.Command
import PolicyWatch.Detector.Evaluation
import PolicyWatch.Detector.Output
import PolicyWatch.Detector.Reprocessing
import PolicyWatch.Event
import PolicyWatch.Failure
import PolicyWatch.Field.Basic
import PolicyWatch.Field.Matcher
import PolicyWatch.Field.Value
import PolicyWatch.FileOperation
import PolicyWatch.FileTree
import PolicyWatch.Glob.Basic
import PolicyWatch.Glob.Parser
import PolicyWatch.Instant.Basic
import PolicyWatch.Instant.Text
import PolicyWatch.Json.Basic
import PolicyWatch.Json.Decoder
import PolicyWatch.Json.Encoder
import PolicyWatch.Json.Reader
import PolicyWatch.Json.Writer
import PolicyWatch.Label.Cache
import PolicyWatch.Label.Map
import PolicyWatch.Label.Source
import PolicyWatch.Log
import PolicyWatch.Main
import PolicyWatch.Policy
import PolicyWatch.PolicyDirectory
import PolicyWatch.PolicyFile
import PolicyWatch.Regex.Basic
import PolicyWatch.Regex.Bracket
import PolicyWatch.Regex.Escape
import PolicyWatch.Regex.Flags
import PolicyWatch.Regex.Matcher
import PolicyWatch.Regex.Parser
import PolicyWatch.Regex.Size
import PolicyWatch.Registry.Basic
import PolicyWatch.Registry.Matching
import PolicyWatch.Registry.NotifierRemoval
import PolicyWatch.Reprocess.Admission
import PolicyWatch.Reprocess.Notify
import PolicyWatch.Reprocess.Gate
import PolicyWatch.Reprocess.Inbox
import PolicyWatch.Reprocess.Outcome
import PolicyWatch.Reprocess.Pipeline
import PolicyWatch.Reprocess.Queue
import PolicyWatch.Reprocess.Request
import PolicyWatch.Reprocess.Schedule
import PolicyWatch.Reprocess.Store
import PolicyWatch.Reprocess.Worker
import PolicyWatch.Scope
import PolicyWatch.Settings
import PolicyWatch.Text.Basic
import PolicyWatch.Text.Numeral
import PolicyWatch.Unicode.Age
import PolicyWatch.Unicode.BinaryProperty
import PolicyWatch.Unicode.CaseFolding
import PolicyWatch.Unicode.CharSet
import PolicyWatch.Unicode.GeneralCategory
import PolicyWatch.Unicode.Property
import PolicyWatch.Unicode.RangeText
import PolicyWatch.Unicode.Script
import PolicyWatch.Unicode.ScriptExtension
import PolicyWatch.Unicode.Segmentation
import PolicyWatch.Unicode.WordTable
import PolicyWatch.Yaml.Basic
import PolicyWatch.Yaml.BlockScalar
import PolicyWatch.Yaml.Cursor
import PolicyWatch.Yaml.Decoder
import PolicyWatch.Yaml.FlowScalar
import PolicyWatch.Yaml.Lexer
import PolicyWatch.Yaml.Property
import PolicyWatch.Yaml.Reader
import PolicyWatch.Proofs.CompiledPolicy.Inquiry
import PolicyWatch.Proofs.Label.Session
import PolicyWatch.Proofs.Registry.Isolation
import PolicyWatch.Proofs.Checks
import PolicyWatch.Proofs.Field.Value
import PolicyWatch.Proofs.Policy.Meaning
import PolicyWatch.Proofs.CompiledPolicy.Meaning
import PolicyWatch.Proofs.Glob.PatternSet
import PolicyWatch.Proofs.Policy.WellFormed
import PolicyWatch.Proofs.Gate.Conservation
import PolicyWatch.Proofs.CompiledPolicy.Description
import PolicyWatch.Proofs.Field.Anchoring
import PolicyWatch.Proofs.Registry.NotifierRemoval
import PolicyWatch.Proofs.Registry.StoreAgreement
import PolicyWatch.Proofs.Registry.Catalogue
import PolicyWatch.Proofs.Gate.Verdict
import PolicyWatch.Proofs.Gate.SignalledGate
import PolicyWatch.Proofs.Gate.Fairness
import PolicyWatch.Proofs.Gate.Capacity
import PolicyWatch.Proofs.Request.Life
import PolicyWatch.Proofs.Pool.Turn
import PolicyWatch.Proofs.Pool.Tasks
import PolicyWatch.Proofs.Pool.Ledger
import PolicyWatch.Proofs.Pool.Frame
import PolicyWatch.Proofs.Pool.Bookings
import PolicyWatch.Proofs.Pool.Work
import PolicyWatch.Proofs.Queue.Order
import PolicyWatch.Proofs.CompiledPolicy.Walk
import PolicyWatch.Proofs.Json.RoundTrip
import PolicyWatch.Proofs.Detector.Reprocessing
import PolicyWatch.Proofs.Registry.Routing
import PolicyWatch.Proofs.CompiledPolicy.Report
import PolicyWatch.Proofs.Text.Lines
import PolicyWatch.Proofs.Detector.Evaluation
import PolicyWatch.Proofs.Text.Bytes
import PolicyWatch.Proofs.Policy.File
import PolicyWatch.Proofs.Policy.Directory
import PolicyWatch.Proofs.Text.Blank
import PolicyWatch.Proofs.Text.Numeral
import PolicyWatch.Proofs.Field.Number
import PolicyWatch.Proofs.Field.Disjunction
import PolicyWatch.Proofs.Text.Spread
import PolicyWatch.Proofs.Glob.Expression
import PolicyWatch.Proofs.Glob.Root
import PolicyWatch.Proofs.Glob.Components
import PolicyWatch.Proofs.Field.Path
import PolicyWatch.Proofs.Registry.Rewriting
import PolicyWatch.Proofs.Detector.Registration
import PolicyWatch.Proofs.Store.Changes
import PolicyWatch.Proofs.Queue.Reconciliation
import PolicyWatch.Proofs.Pool.Departure
import PolicyWatch.Proofs.Pool.CrashingPool
import PolicyWatch.Proofs.Pool.CrashAccount
import PolicyWatch.Proofs.Queue.Moves
import PolicyWatch.Proofs.Queue.Waiters
import PolicyWatch.Proofs.Queue.Notification
import PolicyWatch.Proofs.Detector.Settings
import PolicyWatch.Proofs.CompiledPolicy.Typing
