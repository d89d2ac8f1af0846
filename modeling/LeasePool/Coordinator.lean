import LeasePool.Event
import LeasePool.Pool.Resize
import LeasePool.Pool.View
import LeasePool.Watcher

/-!
The coordinator of one pool. It handles one message or expired lease at a time; handling is a
function to the next coordinator and the effects in the order in which they happen. Whether a
response reaches its requester is given from outside, as are the readings of the clocks.
-/
namespace LeasePool

/-- Settings fixed when a pool is started. -/
structure PoolOptions where
  size : Nat
  leaseTimeout : Option Duration
  provisioner : Provisioner
  /-- How many messages may wait for the coordinator. -/
  capacity : Nat
deriving Repr, Inhabited

namespace PoolOptions

def defaultSize : Nat := 3

def defaultCapacity : Nat := 1000

def default : PoolOptions := ⟨defaultSize, none, .plain, defaultCapacity⟩

/-- The longest inbox that can be made. -/
def maxCapacity : Nat := Text.wordMax / 8

/-- Whether the slots and the inbox can be held. -/
def Fits (options : PoolOptions) : Prop :=
  options.size ≤ Pool.maxTotal ∧ options.capacity ≤ maxCapacity

instance (options : PoolOptions) : Decidable options.Fits := inferInstanceAs (Decidable (_ ∧ _))

end PoolOptions

/-- Why a coordinator did not start. -/
inductive StartError where
  | refused (e : PoolError)
  /-- The start broke off, as the slots or the inbox cannot be held. Whoever asked for it goes down
  with it. -/
  | overflow
deriving DecidableEq, Repr, Inhabited

/-- A grant that is tracked for release or expiry. -/
structure Lease where
  id : Nat
  index : Nat
  requester : String
  grantedAt : Nat
deriving DecidableEq, Repr, Inhabited

/-- Whether a message asks for more slots than can be held. -/
def Message.overflows : Message → Bool
  | resize size => decide (Pool.maxTotal < size)
  | _ => false

/-- The reply to a query. -/
inductive Answer where
  | status (s : PoolStatus)
  | allocation (a : Allocation)
deriving Repr, Inhabited

/-- What handling a message does to the outside. -/
inductive Effect where
  /-- A response was handed to the transport, which delivered it or not. -/
  | delivery (requester : String) (response : Response) (delivered : Bool)
  | event (e : Event)
  | note (n : Note)
  | answer (a : Answer)
deriving Repr, Inhabited

namespace Effect

def event? : Effect → Option Event
  | event e => some e
  | _ => none

def note? : Effect → Option Note
  | note n => some n
  | _ => none

def answer? : Effect → Option Answer
  | answer a => some a
  | _ => none

/-- A response that was delivered. -/
def delivered? : Effect → Option (String × Response)
  | delivery requester response true => some (requester, response)
  | _ => none

end Effect

structure Coordinator where
  name : PoolName
  provisioner : Provisioner
  leaseTimeout : Option Duration
  pool : Pool
  /-- The leases by release channel. -/
  leases : Assoc String Lease
  nextLease : Nat
  /-- The timers of all leases so far. -/
  watchers : List Watcher
deriving Repr, Inhabited

/-- How an attempt to grant a slot went. -/
inductive GrantOutcome where
  | granted | rolledBack | noCapacity
deriving DecidableEq, Repr

namespace Coordinator

/-- A coordinator over new slots, and its first event, when the slots and the inbox can be held. -/
def create (name : PoolName) (options : PoolOptions) (now : Readings) :
    Except PoolError (Coordinator × Event) :=
  if options.size = 0 then .error (.invalidSize 0)
  else .ok
    (⟨name, options.provisioner, options.leaseTimeout,
      .ofSlots (options.provisioner.stock name now options.size), [], 0, []⟩,
     .started options.size options.provisioner.name)

/-- Starts a coordinator. Nothing is reported if the start breaks off. -/
def start (name : PoolName) (options : PoolOptions) (now : Readings) :
    Except StartError (Coordinator × Event) :=
  if options.size = 0 ∨ options.Fits then (create name options now).mapError .refused
  else .error .overflow

/-- The diagnostic form. -/
def describe (c : Coordinator) : String :=
  let timeout := match c.leaseTimeout with
    | some d => "Some(" ++ d.describe ++ ")"
    | none => "None"
  "ResourcePoolCoordinator \x7b key: " ++ c.name.describe ++ ", initializer: "
    ++ Text.quotedText c.provisioner.name ++ ", lease_timeout: " ++ timeout ++ ", leases: "
    ++ c.leases.length.repr ++ " \x7d"

/-! ### Granting -/

/-- Records a delivered grant and starts its timer. -/
def startLease (c : Coordinator) (clock : Readings) (lease : Nat) (index : Nat)
    (requester : String) : Coordinator :=
  let channel := releaseChannel requester
  let watchers := match c.leaseTimeout with
    | some timeout =>
      c.watchers ++ [⟨⟨channel, lease⟩, clock.granted requester + timeout.nanos, .armed⟩]
    | none => c.watchers
  { c with
    leases := c.leases.put channel ⟨lease, index, requester, clock.granted requester⟩
    watchers }

/-- Allocates a slot and delivers the grant; an undeliverable grant is taken back. Either way the
attempt uses up a lease id. -/
def tryGrant (c : Coordinator) (clock : Readings) (reach : String → Bool) (r : Pending) :
    Coordinator × List Effect × GrantOutcome :=
  match c.pool.allocate (clock.acquired r.requester) r.requester with
  | (pool, none, notes) => ({ c with pool }, notes.map .note, .noCapacity)
  | (pool, some resource, notes) =>
    let lease := c.nextLease
    let c := { c with pool, nextLease := lease + 1 }
    let delivered := reach r.requester
    let sent : Effect :=
      .delivery r.requester (.acquired (releaseChannel r.requester) lease resource) delivered
    if delivered then
      (c.startLease clock lease resource.index r.requester,
       notes.map .note ++
        [sent, .event (.granted r.requester resource.id resource.index c.leaseTimeout)],
       .granted)
    else
      ({ c with pool := c.pool.rollback resource.index r.requester },
       notes.map .note ++
        [sent, .note .grantUndeliverable, .event (.rolledBack r.requester resource.index)],
       .rolledBack)

/-- Handles a request: a requester that holds or awaits a slot is turned away, a slot is granted
when nobody waits, and else the request waits. -/
def acquire (c : Coordinator) (clock : Readings) (reach : String → Bool) (r : Pending) :
    Coordinator × List Effect :=
  if (c.pool.grantOf? r.requester).isSome || c.pool.isWaiting r.requester then
    (c, [.note .duplicateIgnored, .event (.duplicate r.requester)])
  else
    let (c, effects, outcome) :=
      if c.pool.waitingCount = 0 then c.tryGrant clock reach r else (c, [], .noCapacity)
    if outcome = .noCapacity then
      let (pool, position) := c.pool.enqueue r
      ({ c with pool }, effects ++ [.event (.queued r.requester r.priority position)])
    else (c, effects)

/-- Takes the request at the head of the waiting list if a slot is free. The answer says whether a
request was used up. -/
def grantNext (c : Coordinator) (clock : Readings) (reach : String → Bool) :
    Coordinator × List Effect × Bool :=
  if c.pool.free = 0 then (c, [], false)
  else match c.pool.dequeue with
    | (_, none) => (c, [], false)
    | (pool, some r) =>
      match { c with pool }.tryGrant clock reach r with
      | (c, effects, .noCapacity) => ({ c with pool := c.pool.requeue r }, effects, false)
      | (c, effects, _) => (c, effects, true)

/-- Repeats `grantNext` at most so often, for as long as it uses up requests. -/
def drainUpTo (clock : Readings) (reach : String → Bool) : Nat → Coordinator →
    Coordinator × List Effect
  | 0, c => (c, [])
  | n + 1, c =>
    match c.grantNext clock reach with
    | (c, effects, false) => (c, effects)
    | (c, effects, true) =>
      let (c, more) := drainUpTo clock reach n c
      (c, effects ++ more)

/-- Grants free slots to waiting requests. Every round but the last uses up a request, so there are
at most as many rounds as requests, and one. -/
def drain (c : Coordinator) (clock : Readings) (reach : String → Bool) :
    Coordinator × List Effect :=
  drainUpTo clock reach (c.pool.queue.length + 1) c

/-! ### Ending grants -/

/-- Frees the slot of a lease that is no longer tracked, and serves the waiting list. -/
def finish (c : Coordinator) (clock : Readings) (reach : String → Bool) (lease : Lease)
    (reason : ReleaseReason) : Coordinator × List Effect :=
  match c.pool.release lease.index lease.requester with
  | (pool, none, notes) => ({ c with pool }, notes.map .note ++ [.note .grantMissing])
  | (pool, some _, notes) =>
    let held := Duration.between lease.grantedAt clock.ended
    let (c, more) := { c with pool }.drain clock reach
    (c, notes.map .note ++
      [.note .slotFreed, .event (.released lease.requester lease.index reason held)] ++ more)

/-- Cancels the timer of a lease. -/
def cancelWatcher (c : Coordinator) (lease : Nat) : Coordinator :=
  { c with watchers := c.watchers.map fun w =>
      if w.expiry.lease = lease then w.disarm .cancelled else w }

/-- Handles a release of a channel, of whatever lease or of one lease only. -/
def release (c : Coordinator) (clock : Readings) (reach : String → Bool) (channel : String)
    (only : Option Nat) : Coordinator × List Effect :=
  match c.leases.get? channel with
  | none => (c, [.note .unknownLeaseIgnored])
  | some lease =>
    if only.any (· ≠ lease.id) then (c, [.note .staleReleaseIgnored])
    else
      let c := { c with leases := c.leases.erase channel }.cancelWatcher lease.id
      c.finish clock reach lease .released

/-- Handles a lease whose time is up. One that has ended already is ignored. -/
def expire (c : Coordinator) (clock : Readings) (reach : String → Bool) (e : Expiry) :
    Coordinator × List Effect :=
  match c.leases.get? e.channel with
  | none => (c, [.note .staleTimeoutIgnored])
  | some lease =>
    if lease.id = e.lease then
      { c with leases := c.leases.erase e.channel }.finish clock reach lease .timedOut
    else (c, [.note .staleTimeoutIgnored])

/-! ### Resizing and withdrawing -/

def resize (c : Coordinator) (clock : Readings) (reach : String → Bool) (size : Nat) :
    Coordinator × List Effect :=
  if size = 0 then (c, [.note .emptyResizeIgnored, .event (.resizeRejected size)])
  else
    let (pool, outcome, notes) := c.pool.resize c.name c.provisioner.strategy clock size
    let (c, more) := { c with pool }.drain clock reach
    (c, notes.map .note ++
      [.note .resizeApplied, .event (.resized outcome.previous outcome.size pool.free)] ++ more)

/-- Withdraws a waiting request and tells its requester. -/
def cancel (c : Coordinator) (reach : String → Bool) (requester : String) :
    Coordinator × List Effect :=
  match c.pool.withdraw requester with
  | (_, none) => (c, [.note .notWaiting])
  | (pool, some _) =>
    let delivered := reach requester
    ({ c with pool },
     .delivery requester .cancelled delivered ::
      (if delivered then [] else [.note .cancellationUndeliverable])
      ++ [.event (.waitCancelled requester)])

/-! ### Steps -/

/-- Handles one message. -/
def handle (c : Coordinator) (clock : Readings) (reach : String → Bool) (m : Message) :
    Coordinator × List Effect :=
  let (c, effects) := match m with
    | .request requester priority => c.acquire clock reach ⟨requester, priority⟩
    | .release channel lease => c.release clock reach channel lease
    | .resize size => c.resize clock reach size
    | .cancel requester => c.cancel reach requester
    | .status => (c, [.answer (.status (c.pool.status c.name.resource))])
    | .allocation => (c, [.answer (.allocation (c.pool.allocation c.name.resource))])
  (c, .note .handling :: effects)

/-- What a coordinator takes from its queues. -/
inductive Input where
  | message (m : Message)
  | expiry (e : Expiry)
deriving DecidableEq, Repr, Inhabited

/-- Whether an input asks for more slots than can be held. Handling it breaks off before anything is
reported. -/
def Input.overflows : Input → Bool
  | .message m => m.overflows
  | .expiry _ => false

/-- Handles an input that does not ask for more slots than can be held. -/
def step (c : Coordinator) (clock : Readings) (reach : String → Bool) : Input →
    Coordinator × List Effect
  | .message m => c.handle clock reach m
  | .expiry e => c.expire clock reach e

/-! ### Timers -/

/-- Cancels every timer, as when the coordinator stops. -/
def cancelWatchers (c : Coordinator) : Coordinator :=
  { c with watchers := c.watchers.map (Watcher.disarm .cancelled) }

/-- Records that the timer of a lease has fired. -/
def fireWatcher (c : Coordinator) (lease : Nat) : Coordinator :=
  { c with watchers := c.watchers.map fun w =>
      if w.expiry.lease = lease then w.disarm .fired else w }

end Coordinator

end LeasePool
