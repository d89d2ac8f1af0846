import LeasePool.Config.Store
import LeasePool.FileTree
import LeasePool.Pool.Audit
import LeasePool.Proofs.Refit
import LeasePool.Provisioner.Scripted
import LeasePool.Wire.Decode
import LeasePool.Wire.Encode
import LeasePool.Wire.Written
import LeasePool.World.Settling
import LeasePool.Proofs.Accounting
import LeasePool.Proofs.Grants
import LeasePool.Proofs.Resizing
import LeasePool.Proofs.Returns
import LeasePool.Proofs.Leases
import LeasePool.Proofs.Runs
import LeasePool.Proofs.Refinement
import LeasePool.Proofs.Possession
import LeasePool.Proofs.Lifetimes
import LeasePool.Proofs.Arrivals
import LeasePool.Proofs.Idle
import LeasePool.Proofs.Replay
import LeasePool.Proofs.Renumbering
import LeasePool.Proofs.Queues
import LeasePool.Proofs.Unreached
import LeasePool.Proofs.Expansions
import LeasePool.Proofs.Lockstep
import LeasePool.Proofs.Calls
import LeasePool.Proofs.Following
import LeasePool.Proofs.Retries
import LeasePool.Proofs.Takeovers
import LeasePool.Proofs.Withdrawal
import LeasePool.Proofs.Turns
import LeasePool.Proofs.Timeouts
import LeasePool.Proofs.Routes
import LeasePool.Proofs.Operations
import LeasePool.Proofs.Separation
import LeasePool.Proofs.Registry
import LeasePool.Proofs.Strict
import LeasePool.Proofs.Trimming
import LeasePool.Proofs.Casing
import LeasePool.Proofs.SpanForms
import LeasePool.Proofs.Spans
import LeasePool.Proofs.Lines
import LeasePool.Proofs.Saving
import LeasePool.Proofs.Loading
import LeasePool.Proofs.Reloading
import LeasePool.Proofs.Spelling
import LeasePool.Proofs.Meaning
import LeasePool.Proofs.Calendar
import LeasePool.Proofs.Instants
import LeasePool.Proofs.Transmission
import LeasePool.Proofs.Positions
import LeasePool.Proofs.Sizing
import LeasePool.Proofs.Serving
import LeasePool.Proofs.Extent
import LeasePool.Proofs.Interchange
import LeasePool.Proofs.Views
import LeasePool.Proofs.Priorities
import LeasePool.Proofs.Shedding
import LeasePool.Proofs.Tracking
