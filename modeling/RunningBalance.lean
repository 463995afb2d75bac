import RunningBalance.Main
import RunningBalance.Proofs.Amount
import RunningBalance.Proofs.Attempts
import RunningBalance.Proofs.Instant
import RunningBalance.Proofs.Settings.Agreement
import RunningBalance.Proofs.StableSort
import RunningBalance.Proofs.Transfer.Response
import RunningBalance.Proofs.Ledger.Balance
import RunningBalance.Proofs.Ledger.Fault
import RunningBalance.Proofs.Ledger.Opening
import RunningBalance.Proofs.Ledger.Chronology
import RunningBalance.Proofs.Ledger.History
import RunningBalance.Proofs.Ledger.Reordering
import RunningBalance.Proofs.Ledger.Document
import RunningBalance.Proofs.Monitor.Journal
import RunningBalance.Proofs.Monitor.Round
import RunningBalance.Proofs.Monitor.Isolation
import RunningBalance.Proofs.Monitor.Rendering
import RunningBalance.Proofs.Timestamp.Coherence
import RunningBalance.Proofs.Timestamp.Offset
import RunningBalance.Proofs.Timestamp.Written
import RunningBalance.Proofs.Ledger.Statement
import RunningBalance.Proofs.Metrics.Counters
import RunningBalance.Proofs.Metrics.Exposition
import RunningBalance.Proofs.Monitor.Counters
import RunningBalance.Proofs.Monitor.Freshness
import RunningBalance.Proofs.Monitor.Token
import RunningBalance.Proofs.Ledger.Insertion
import RunningBalance.Proofs.Ledger.Replay
import RunningBalance.Proofs.Program
import RunningBalance.Proofs.Ledger.Redating
import RunningBalance.Proofs.Ledger.Totals
import RunningBalance.Proofs.Amount.Units
import RunningBalance.Proofs.Account.Canonical
import RunningBalance.Proofs.Settings.Acceptance
import RunningBalance.Proofs.Settings.Precedence
import RunningBalance.Proofs.Amount.Readers
import RunningBalance.Proofs.Ledger.Outputs
import RunningBalance.Proofs.Ledger.Naming
import RunningBalance.Proofs.Ledger.Message
import RunningBalance.Proofs.Monitor.Target
import RunningBalance.Proofs.Monitor.Surroundings
import RunningBalance.Proofs.Calendar.Succession
import RunningBalance.Proofs.Decimal.Order
import RunningBalance.Proofs.Timestamp.Dates
