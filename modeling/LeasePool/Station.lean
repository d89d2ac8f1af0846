import LeasePool.Coordinator

/-!
A station is a coordinator at work: it has an inbox of bounded size and a queue of leases whose
time is up, and takes one thing at a time, expired leases before messages. It halts when it is told
to, or when nobody can send to it any more; a faulty requester can crash it, and so can a resize to
more slots than can be held.
-/
namespace LeasePool

/-- A message in an inbox, with the number of the query if somebody waits for the answer. -/
structure Envelope where
  message : Message
  query : Option Nat
deriving DecidableEq, Repr, Inhabited

inductive Phase where
  | running | halted | crashed
deriving DecidableEq, Repr, Inhabited

structure Station where
  coordinator : Coordinator
  /-- How many messages the inbox holds at most. -/
  capacity : Nat
  inbox : List Envelope
  /-- The leases whose time is up and that have not been handled. -/
  expired : List Expiry
  /-- Whether the station has been told to halt. -/
  stopping : Bool
  phase : Phase
deriving Repr, Inhabited

/-- How an attempt to send went. -/
inductive Posting (α : Type) where
  | accepted (after : α)
  /-- There is no room now. -/
  | full
  /-- Nobody takes messages any more. -/
  | refused
deriving Repr

def Posting.map {α β : Type} (f : α → β) : Posting α → Posting β
  | accepted after => .accepted (f after)
  | full => .full
  | refused => .refused

/-- A station after it took something, with what that did to the outside and the query that an
answer among it belongs to. -/
structure Turn where
  station : Station
  effects : List Effect
  query : Option Nat
deriving Repr

namespace Station

/-- A station for a new coordinator. Its inbox has room for at least one message. -/
def employ (c : Coordinator) (capacity : Nat) : Station :=
  ⟨c, max 1 capacity, [], [], false, .running⟩

def isClosed (s : Station) : Bool := s.phase != .running

/-- Whether the inbox has no room now. -/
def isFull (s : Station) : Bool := !s.isClosed && decide (s.capacity ≤ s.inbox.length)

def post (s : Station) (e : Envelope) : Posting Station :=
  if s.isClosed then .refused
  else if s.isFull then .full
  else .accepted { s with inbox := s.inbox ++ [e] }

/-- The counters of a station that works. -/
def status? (s : Station) : Option PoolStatus :=
  if s.isClosed then none
  else some (s.coordinator.pool.status s.coordinator.name.resource)

/-! ### Taking -/

/-- The end of a station's work. What its queues hold is lost. -/
def leave (s : Station) (phase : Phase) : Station :=
  { s with inbox := [], expired := [], phase }

/-- An orderly end: every timer is cancelled, and the end is reported. -/
def halt (s : Station) : Turn :=
  ⟨{ s with coordinator := s.coordinator.cancelWatchers }.leave .halted, [.event .stopped], none⟩

/-- Whether an effect hands a response to a faulty requester. -/
def isFatal (faulty : String → Bool) : Effect → Bool
  | .delivery requester _ _ => faulty requester
  | _ => false

/-- Handles one input. A response to a faulty requester crashes the station at that point; what was
done before stays done. A resize to more slots than can be held crashes it at once. -/
def handle (s : Station) (clock : Readings) (reach faulty : String → Bool)
    (input : Coordinator.Input) (query : Option Nat) : Turn :=
  if input.overflows then ⟨s.leave .crashed, [.note .handling], none⟩
  else
    let (c, effects) := s.coordinator.step clock reach input
    match effects.findIdx? (isFatal faulty) with
    | none => ⟨{ s with coordinator := c }, effects, query⟩
    | some i => ⟨s.leave .crashed, effects.take i, none⟩

/-- Takes the next thing to do, if there is one. `held` says whether somebody can still send to the
station. -/
def take? (s : Station) (clock : Readings) (reach faulty : String → Bool) (held : Bool) :
    Option Turn :=
  if s.isClosed then none
  else if s.stopping then some s.halt
  else match s.expired, s.inbox with
    | e :: rest, _ =>
      some ({ s with expired := rest }.handle clock reach faulty (.expiry e) none)
    | [], e :: rest =>
      some ({ s with inbox := rest }.handle clock reach faulty (.message e.message) e.query)
    | [], [] => if held then none else some s.halt

/-! ### Timers -/

/-- The timers that are still running. -/
def armed (s : Station) : List Watcher :=
  if s.isClosed then [] else s.coordinator.watchers.filter fun w => w.state = .armed

/-- The running timer of a lease. -/
def timer? (s : Station) (lease : Nat) : Option Watcher :=
  s.armed.find? fun w => w.expiry.lease = lease

/-- Fires the timer of a lease that is due. -/
def fire? (s : Station) (ticks lease : Nat) : Option Station :=
  ((s.timer? lease).filter fun w => w.deadline ≤ ticks).map fun w =>
    { s with
      coordinator := s.coordinator.fireWatcher lease
      expired := s.expired ++ [w.expiry] }

end Station

end LeasePool
