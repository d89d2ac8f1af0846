/-!
Watchers are the timers of leases. A watcher fires once, at its deadline or later, unless it is
cancelled before.
-/
namespace LeasePool

/-- A lease whose time is up. -/
structure Expiry where
  channel : String
  lease : Nat
deriving DecidableEq, Repr, Inhabited

inductive WatcherState where
  | armed | cancelled | fired
deriving DecidableEq, Repr, Inhabited

/-- The timer of one lease. -/
structure Watcher where
  expiry : Expiry
  deadline : Nat
  state : WatcherState
deriving DecidableEq, Repr, Inhabited

namespace Watcher

/-- Ends a timer that is still running. -/
def disarm (state : WatcherState) (w : Watcher) : Watcher :=
  if w.state = .armed then { w with state } else w

end Watcher

end LeasePool
