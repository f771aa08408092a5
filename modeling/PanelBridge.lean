import PanelBridge.Channel
import PanelBridge.Config.Basic
import PanelBridge.Config.Document
import PanelBridge.Decimal.Shortest
import PanelBridge.Discard
import PanelBridge.Dispatch
import PanelBridge.Fault
import PanelBridge.Json.Basic
import PanelBridge.Json.Canonical
import PanelBridge.Json.Printer
import PanelBridge.Json.Reader
import PanelBridge.Json.Reader.Number
import PanelBridge.Json.Reader.Text
import PanelBridge.Json.Syntax
import PanelBridge.Listeners
import PanelBridge.Main
import PanelBridge.Message
import PanelBridge.Panel.Basic
import PanelBridge.Panel.Operation
import PanelBridge.Readiness
import PanelBridge.Recent
import PanelBridge.Replay.CommandLine
import PanelBridge.Replay.Run
import PanelBridge.Replay.Transcript
import PanelBridge.Run.Correlation
import PanelBridge.Run.Intent
import PanelBridge.Run.Ledger
import PanelBridge.Schema.Decoder
import PanelBridge.Schema.Error
import PanelBridge.Schema.Record
import PanelBridge.Snapshot.Basic
import PanelBridge.Snapshot.Index
import PanelBridge.Store.Basic
import PanelBridge.Store.Commit
import PanelBridge.Store.Slice
import PanelBridge.Store.View
import PanelBridge.Table
import PanelBridge.Text.Blank
import PanelBridge.Text.Cased
import PanelBridge.Text.Hidden
import PanelBridge.Text.Lines
import PanelBridge.Text.Lowercase
import PanelBridge.Text.Quoted
import PanelBridge.Text.Range
import PanelBridge.Time.Calendar
import PanelBridge.Time.Instant
import PanelBridge.Time.Timestamp
import PanelBridge.Wire.Catalog
import PanelBridge.Wire.Command
import PanelBridge.Wire.Envelope
import PanelBridge.Wire.Event
import PanelBridge.Wire.Kind
import PanelBridge.Wire.Project
import PanelBridge.Wire.TestResult
import PanelBridge.Proofs.Commit
import PanelBridge.Proofs.Views
import PanelBridge.Proofs.Ledger
import PanelBridge.Proofs.History
import PanelBridge.Proofs.Agreement
import PanelBridge.Proofs.Turns
import PanelBridge.Proofs.StaleResults
import PanelBridge.Proofs.OrphanedResults
import PanelBridge.Proofs.Redraws
import PanelBridge.Proofs.Selection
import PanelBridge.Proofs.Readiness
import PanelBridge.Proofs.Sequence
import PanelBridge.Proofs.RefusedCommands
import PanelBridge.Proofs.CommitReports
import PanelBridge.Proofs.Outcomes
import PanelBridge.Proofs.PayloadRules
import PanelBridge.Proofs.SnapshotRules
import PanelBridge.Proofs.CommandLines
import PanelBridge.Proofs.SentCommands
import PanelBridge.Proofs.JsonValues
import PanelBridge.Proofs.ReadBack
import PanelBridge.Proofs.Restatements
import PanelBridge.Proofs.Records
import PanelBridge.Proofs.NormalForms
import PanelBridge.Proofs.Framing
import PanelBridge.Proofs.FreshStart
import PanelBridge.Proofs.Forgetting
import PanelBridge.Proofs.Likeness
import PanelBridge.Proofs.HandledAlike
import PanelBridge.Proofs.Timeless
import PanelBridge.Proofs.ViewState
import PanelBridge.Proofs.Commuting
import PanelBridge.Proofs.Queue
import PanelBridge.Proofs.ListenerCalls
import PanelBridge.Proofs.LedgerMoves
import PanelBridge.Proofs.StartedRuns
import PanelBridge.Proofs.DiagnosticsByFile
import PanelBridge.Proofs.Merging
import PanelBridge.Proofs.Redelivery
import PanelBridge.Proofs.LowerCase
import PanelBridge.Proofs.Filtering
import PanelBridge.Proofs.StallSweeps
import PanelBridge.Proofs.Overviews
import PanelBridge.Proofs.ReplayAccounts
import PanelBridge.Proofs.IdTexts
import PanelBridge.Proofs.Retirements
import PanelBridge.Proofs.DiscardLog
import PanelBridge.Proofs.TrailingReturns
import PanelBridge.Proofs.TranscriptLines
