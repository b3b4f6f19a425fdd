import Supervision.Main
import Supervision.Logging.Filter
import Supervision.Rehearsal.Connection
import Supervision.Rehearsal.Files
import Supervision.Rehearsal.Lifecycle
import Supervision.Rehearsal.Server
import Supervision.Rehearsal.Service
import Supervision.Text.Utf8
import Supervision.Proofs.Course
import Supervision.Proofs.Calls
import Supervision.Proofs.Startup
import Supervision.Proofs.Teardown
import Supervision.Proofs.Client
import Supervision.Proofs.Linearization
import Supervision.Proofs.Background
import Supervision.Proofs.Stop
import Supervision.Proofs.Shutdown
import Supervision.Proofs.Rest
import Supervision.Proofs.Race
import Supervision.Proofs.Performance
import Supervision.Proofs.Phases
import Supervision.Proofs.Discretion
import Supervision.Proofs.Contexts
import Supervision.Proofs.Isolation
import Supervision.Proofs.Service
import Supervision.Proofs.Ports
import Supervision.Proofs.Cancellation
import Supervision.Proofs.Surroundings
import Supervision.Proofs.Visits
import Supervision.Proofs.Desk
import Supervision.Proofs.Overlap
import Supervision.Proofs.Reports
import Supervision.Proofs.Succession
import Supervision.Proofs.Checks
import Supervision.Proofs.Ledger
import Supervision.Proofs.Bystanders
import Supervision.Proofs.Accounts
import Supervision.Proofs.Registrations
import Supervision.Proofs.Binding
import Supervision.Proofs.Standing
import Supervision.Proofs.Assertions
import Supervision.Proofs.Crew
import Supervision.Proofs.BindFailures
import Supervision.Proofs.Loading
import Supervision.Proofs.Usability
import Supervision.Proofs.Tables
import Supervision.Proofs.Decoding
import Supervision.Proofs.Readiness
import Supervision.Proofs.Limits
import Supervision.Proofs.SideBySide
import Supervision.Proofs.Checkup
import Supervision.Proofs.Endpoints
import Supervision.Proofs.Progress
import Supervision.Proofs.Signals
import Supervision.Proofs.Attempts
import Supervision.Proofs.Endings
import Supervision.Proofs.SignalledRuns
import Supervision.Proofs.Exit
import Supervision.Proofs.Faults
import Supervision.Proofs.Overlay
import Supervision.Proofs.Severing
import Supervision.Proofs.Bodies
import Supervision.Proofs.Delivery
import Supervision.Proofs.Undoing
import Supervision.Proofs.Quotations
import Supervision.Proofs.Aggregates
