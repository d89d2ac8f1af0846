import LeasePool.Duration
import LeasePool.Message
import LeasePool.Note

/-!
What coordinators report about their pools, the log entry for each report, and the sinks that take
reports.
-/
namespace LeasePool

/-- Something that happened in a pool. -/
inductive Event where
  | started (size : Nat) (provisioner : String)
  | stopped
  | granted (requester resource : String) (index : Nat) (leaseTimeout : Option Duration)
  | queued (requester : String) (priority : Int) (position : Nat)
  | released (requester : String) (index : Nat) (reason : ReleaseReason) (held : Duration)
  | rolledBack (requester : String) (index : Nat)
  | waitCancelled (requester : String)
  | duplicate (requester : String)
  | resized (previous size available : Nat)
  | resizeRejected (requested : Nat)
deriving DecidableEq, Repr, Inhabited

def Event.kind : Event → String
  | started .. => "pool_started"
  | stopped => "pool_stopped"
  | granted .. => "resource_granted"
  | queued .. => "request_queued"
  | released .. => "resource_released"
  | rolledBack .. => "grant_rolled_back"
  | waitCancelled .. => "wait_cancelled"
  | duplicate .. => "duplicate_request"
  | resized .. => "pool_resized"
  | resizeRejected .. => "resize_rejected"

/-- An event and the pool in which it happened. -/
structure Report where
  pool : PoolName
  event : Event
deriving DecidableEq, Repr, Inhabited

/-! ### Log entries -/

/-- A log line with named fields. -/
structure LogEntry where
  level : Level
  message : String
  fields : List (String × String)
deriving DecidableEq, Repr

/-- Milliseconds as they are logged, in the low 64 bits. -/
def Duration.loggedMillis (d : Duration) : String := (d.millis % Nat.pow 2 64).repr

/-- The level, message and fields of an event's log line, less the pool. -/
def Event.logLine : Event → Level × String × List (String × String)
  | started size provisioner =>
    (.info, "Pool started", [("size", size.repr), ("initializer", provisioner)])
  | stopped => (.info, "Pool stopped", [])
  | granted requester resource index leaseTimeout =>
    (.debug, "Resource granted",
      [("requester", requester), ("resource", resource), ("index", index.repr)]
        ++ (leaseTimeout.map fun d => ("lease_timeout_ms", d.loggedMillis)).toList)
  | queued requester priority position =>
    (.debug, "Request queued",
      [("requester", requester), ("priority", toString priority), ("position", position.repr)])
  | released requester index reason held =>
    (.debug, "Resource released",
      [("requester", requester), ("index", index.repr), ("reason", reason.words),
       ("held_ms", held.loggedMillis)])
  | rolledBack requester index =>
    (.warn, "Grant rolled back, requester unreachable",
      [("requester", requester), ("index", index.repr)])
  | waitCancelled requester => (.debug, "Wait cancelled", [("requester", requester)])
  | duplicate requester => (.warn, "Duplicate request ignored", [("requester", requester)])
  | resized previous size available =>
    (.info, "Pool resized",
      [("from", previous.repr), ("to", size.repr), ("available", available.repr)])
  | resizeRejected requested => (.warn, "Resize rejected", [("requested", requested.repr)])

def Report.logEntry (r : Report) : LogEntry :=
  let (level, message, fields) := r.event.logLine
  ⟨level, message, ("pool", r.pool.coordinatorId) :: fields⟩

/-! ### Sinks -/

/-- A receiver of reports. -/
inductive Sink where
  | discarding
  | recording (seen : List Report)
deriving DecidableEq, Repr

namespace Sink

def emit (r : Report) : Sink → Sink
  | discarding => discarding
  | recording seen => recording (seen ++ [r])

def reports : Sink → List Report
  | discarding => []
  | recording seen => seen

/-- The kinds of the recorded events, in order. -/
def kinds (s : Sink) : List String := s.reports.map fun r => r.event.kind

def count (s : Sink) (kind : String) : Nat := s.kinds.count kind

end Sink

/-- Several sinks that all get every report. -/
structure SinkGroup where
  sinks : List Sink
deriving DecidableEq, Repr

namespace SinkGroup

def emit (g : SinkGroup) (r : Report) : SinkGroup := ⟨g.sinks.map (Sink.emit r)⟩

def add (g : SinkGroup) (s : Sink) : SinkGroup := ⟨g.sinks ++ [s]⟩

def describe (g : SinkGroup) : String :=
  "MultiplexTelemetrySink \x7b sink_count: " ++ g.sinks.length.repr ++ " \x7d"

end SinkGroup

end LeasePool
