/-!
Log lines of a pool. Each is a cause with a level and a fixed message.
-/
namespace LeasePool

inductive Level where
  | trace | debug | info | warn
deriving DecidableEq, Repr

def Level.name : Level → String
  | .trace => "TRACE"
  | .debug => "DEBUG"
  | .info => "INFO"
  | .warn => "WARN"

/-- What a pool or its coordinator may log while it handles a message. -/
inductive Note where
  | handling
  | duplicateIgnored
  | grantUndeliverable
  | unknownLeaseIgnored
  | staleReleaseIgnored
  | staleTimeoutIgnored
  | grantMissing
  | slotFreed
  | emptyResizeIgnored
  | resizeApplied
  | notWaiting
  | cancellationUndeliverable
  | countDisagrees
  | slotsDropped
  | unexpectedExtension
  | shrinkClamped
deriving DecidableEq, Repr

namespace Note

def level : Note → Level
  | handling | slotFreed | notWaiting => .trace
  | grantUndeliverable | unknownLeaseIgnored | staleReleaseIgnored | staleTimeoutIgnored
  | grantMissing | resizeApplied | cancellationUndeliverable | slotsDropped => .debug
  | duplicateIgnored | emptyResizeIgnored | countDisagrees | unexpectedExtension
  | shrinkClamped => .warn

def message : Note → String
  | handling => "Handling message"
  | duplicateIgnored => "Requester already holds or awaits a slot, ignoring request"
  | grantUndeliverable => "Grant undeliverable"
  | unknownLeaseIgnored => "Release for unknown lease ignored"
  | staleReleaseIgnored => "Stale release ignored"
  | staleTimeoutIgnored => "Stale lease timeout ignored"
  | grantMissing => "Grant no longer exists"
  | slotFreed => "Slot freed"
  | emptyResizeIgnored => "Pool size must be positive, ignoring resize to 0"
  | resizeApplied => "Resize applied"
  | notWaiting => "Cancel for non-waiting requester"
  | cancellationUndeliverable => "Cancellation undeliverable"
  | countDisagrees => "Available count disagrees with slot array, resetting to 0"
  | slotsDropped => "Truncated retired slots"
  | unexpectedExtension => "Initializer created an unexpected number of slots"
  | shrinkClamped => "Shrink removed more slots than were available, clamping to 0"

/-- The notes that report a fault of the pool's own accounting. -/
def isDefensive : Note → Bool
  | grantMissing | countDisagrees | unexpectedExtension | shrinkClamped => true
  | _ => false

end Note

end LeasePool
