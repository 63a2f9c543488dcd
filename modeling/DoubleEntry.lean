import DoubleEntry.Main
import DoubleEntry.Store.Faults
import DoubleEntry.Store.Memory
import DoubleEntry.Proofs.Coordinator.Atomicity
import DoubleEntry.Proofs.Coordinator.Attempts
import DoubleEntry.Proofs.Coordinator.Standing
import DoubleEntry.Proofs.Ledger.Accounts
import DoubleEntry.Proofs.Ledger.Booking
import DoubleEntry.Proofs.Ledger.Books
import DoubleEntry.Proofs.Ledger.Constraints
import DoubleEntry.Proofs.Ledger.Opening
import DoubleEntry.Proofs.Ledger.Schema
import DoubleEntry.Proofs.Program.Runs
import DoubleEntry.Proofs.Store.Alone
import DoubleEntry.Proofs.Store.BareTransactions
import DoubleEntry.Proofs.Store.Keeping
import DoubleEntry.Proofs.Store.Steps
import DoubleEntry.Proofs.Traffic.Books
import DoubleEntry.Proofs.Traffic.Commits
import DoubleEntry.Proofs.Traffic.Foresight
import DoubleEntry.Proofs.Traffic.Invariant
import DoubleEntry.Proofs.Traffic.OneByOne
import DoubleEntry.Proofs.Traffic.Orders
import DoubleEntry.Proofs.Traffic.Schedule
import DoubleEntry.Proofs.Traffic.Served
import DoubleEntry.Proofs.Traffic.Steps
import DoubleEntry.Proofs.Transfer.Attempt
import DoubleEntry.Proofs.Transfer.Outcome
import DoubleEntry.Proofs.Transfer.Procedure
import DoubleEntry.Proofs.Work.OnLedger
import DoubleEntry.Proofs.Work.Tasks
import DoubleEntry.Proofs.Coordinator.Discipline
import DoubleEntry.Proofs.Store.Onward
import DoubleEntry.Proofs.Coordinator.Cancellation
import DoubleEntry.Proofs.Refinement.Pairing
import DoubleEntry.Proofs.Refinement.Tables
import DoubleEntry.Proofs.Time.Rfc3339
import DoubleEntry.Proofs.Ledger.Audit
import DoubleEntry.Proofs.Refinement.Reports
import DoubleEntry.Proofs.Refinement.Calls
import DoubleEntry.Proofs.Refinement.Work
import DoubleEntry.Proofs.Refinement.Together
import DoubleEntry.Proofs.Refinement.Jobs
import DoubleEntry.Proofs.Refinement.Requests
import DoubleEntry.Proofs.Refinement.Sessions
import DoubleEntry.Proofs.Schema.Interruptions
import DoubleEntry.Proofs.Schema.Convergence
import DoubleEntry.Proofs.Locking.Contention
import DoubleEntry.Proofs.Privacy.Noninterference
import DoubleEntry.Proofs.Authority.Respect
import DoubleEntry.Proofs.Authority.Requests
import DoubleEntry.Proofs.Authority.Crowd
import DoubleEntry.Proofs.CommandLine.ExitCodes
import DoubleEntry.Proofs.Isolation.Sharing
import DoubleEntry.Proofs.Isolation.Snapshots
import DoubleEntry.Proofs.Config.Saving
import DoubleEntry.Proofs.Json.Forms
import DoubleEntry.Proofs.Json.Shapes
import DoubleEntry.Proofs.Store.Failures
import DoubleEntry.Proofs.Transfer.Course
import DoubleEntry.Proofs.Ledger.RunningTotals
import DoubleEntry.Proofs.Health.Diagnosis
import DoubleEntry.Proofs.Traffic.Turnover
import DoubleEntry.Proofs.Transfer.Company
import DoubleEntry.Proofs.Traffic.Untroubled
import DoubleEntry.Proofs.Traffic.Shifts
import DoubleEntry.Proofs.Traffic.Progress
import DoubleEntry.Proofs.Traffic.Drain
import DoubleEntry.Proofs.Program.SideBySide
import DoubleEntry.Proofs.Coordinator.SideBySide
import DoubleEntry.Proofs.Transfer.Apart
import DoubleEntry.Proofs.Transfer.Reordering
import DoubleEntry.Proofs.Listing.Leafing
import DoubleEntry.Proofs.Listing.Chronicle
import DoubleEntry.Proofs.Listing.Shelves
import DoubleEntry.Proofs.Listing.Paging
import DoubleEntry.Proofs.Store.Asking
import DoubleEntry.Proofs.Ledger.Totals
import DoubleEntry.Proofs.Status.Totals
import DoubleEntry.Proofs.Amount.Reading
import DoubleEntry.Proofs.Amount.RoundTrip
import DoubleEntry.Proofs.Currency.Reading
import DoubleEntry.Proofs.Retry.Ceiling
import DoubleEntry.Proofs.Retry.Bounds
import DoubleEntry.Proofs.Retry.Jitter
import DoubleEntry.Proofs.Context.Deadlines
import DoubleEntry.Proofs.Config.Loading
