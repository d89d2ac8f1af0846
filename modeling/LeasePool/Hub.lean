import LeasePool.Event
import LeasePool.Exchange
import LeasePool.Station

/-!
The hub runs the stations of all pools over one exchange. Its registry lists at most one station
for a pool: asking for a pool starts a station if none is listed that still works. Stations may also
be started outside the registry; those work for as long as somebody has a handle to them. The clocks
of a hub stand still while anything is done and move only in between.
-/
namespace LeasePool

/-- One of the stations that were started for a pool, in order. -/
structure StationId where
  pool : PoolName
  number : Nat
deriving DecidableEq, Repr, Inhabited

structure Hub where
  clock : Clock
  exchange : Exchange
  stations : Assoc StationId Station
  /-- The registry: the number of the station that is listed for each pool. -/
  listed : Assoc PoolName Nat
  /-- Whether the registry has been shut down. -/
  shutDown : Bool
  /-- Handles to stations that somebody has, one entry a handle. -/
  handles : List StationId
  /-- Every event so far. -/
  log : List Report
  /-- How many queries have been sent. -/
  asked : Nat
  /-- The answers to queries, by their numbers. -/
  answers : Assoc Nat Answer
  /-- The requesters that crash a station which hands them a response. -/
  faulty : List String
  /-- The leases that got a timer, in the order in which the timers were started. -/
  timed : List (StationId × Nat)
deriving Repr, Inhabited

namespace Hub

def idle (clock : Clock) : Hub := ⟨clock, .idle, [], [], false, [], [], 0, [], [], []⟩

def station? (h : Hub) (id : StationId) : Option Station := h.stations.get? id

def setStation (h : Hub) (id : StationId) (s : Station) : Hub :=
  { h with stations := h.stations.put id s }

theorem station?_setStation (h : Hub) (id other : StationId) (s : Station) :
    (h.setStation id s).station? other = if id = other then some s else h.station? other :=
  Assoc.get?_put id other s h.stations

/-- Whether a station takes no messages any more. -/
def isClosed (h : Hub) (id : StationId) : Bool := ((h.station? id).map Station.isClosed).getD true

/-- Whether a station has no room for a message now. -/
def isFull (h : Hub) (id : StationId) : Bool := ((h.station? id).map Station.isFull).getD false

/-- Adds an event of a pool to the log. -/
def report (h : Hub) (pool : PoolName) (e : Event) : Hub := { h with log := h.log ++ [⟨pool, e⟩] }

/-- The error for a pool whose station cannot be had. -/
def unavailable (pool : PoolName) : PoolError := .unavailable pool.coordinatorId

/-- The counters of a station that works. -/
def status? (h : Hub) (id : StationId) : Option PoolStatus := (h.station? id).bind Station.status?

/-! ### The registry -/

/-- Starts a station. -/
def start (h : Hub) (pool : PoolName) (options : PoolOptions) :
    Except StartError (Hub × StationId) := do
  let (coordinator, e) ← Coordinator.start pool options h.clock.still
  let id : StationId := ⟨pool, h.stations.keys.countP fun other => other.pool = pool⟩
  return ((h.setStation id (.employ coordinator options.capacity)).report pool e, id)

/-- The station that is listed for a pool, if it still works. -/
def get? (h : Hub) (pool : PoolName) : Option StationId :=
  match h.listed.get? pool with
  | some number => if h.isClosed ⟨pool, number⟩ then none else some ⟨pool, number⟩
  | none => none

/-- The station of a pool, which is started and listed if none is at work. The options matter only
then. -/
def getOrStart (h : Hub) (pool : PoolName) (options : PoolOptions) :
    Except StartError (Hub × StationId) :=
  if h.shutDown then .error (.refused (unavailable pool))
  else match h.get? pool with
    | some id => .ok (h, id)
    | none => do
      let (h, id) ← h.start pool options
      return ({ h with listed := h.listed.put pool id.number }, id)

/-- Tells a station to halt. -/
def stop (h : Hub) (id : StationId) : Hub :=
  match h.station? id with
  | some s => h.setStation id { s with stopping := true }
  | none => h

/-- Tells every listed station to halt and empties the registry for good. -/
def shutdown (h : Hub) : Hub :=
  let h := h.listed.foldl (fun h (pool, number) => h.stop ⟨pool, number⟩) h
  { h with listed := [], shutDown := true }

/-- The diagnostic form of the registry. -/
def describeRegistry (h : Hub) : String :=
  "PoolRegistry \x7b pools: " ++ h.listed.length.repr ++ ", shut_down: " ++ toString h.shutDown
    ++ " \x7d"

/-! ### Handles -/

/-- Somebody gets a handle to a station. -/
def addHandle (h : Hub) (id : StationId) : Hub := { h with handles := id :: h.handles }

/-- Somebody gives up a handle. -/
def dropHandle (h : Hub) (id : StationId) : Hub := { h with handles := h.handles.erase id }

/-- Whether somebody can send to a station. The registry can send to the stations that it lists, and
whoever works through the registry needs no handle of its own. -/
def isHeld (h : Hub) (id : StationId) : Bool :=
  h.listed.get? id.pool == some id.number || h.handles.contains id

/-! ### Sending -/

/-- Puts an envelope into the inbox of a station. -/
def post (h : Hub) (id : StationId) (e : Envelope) : Posting Hub :=
  match h.station? id with
  | some s => (s.post e).map (h.setStation id)
  | none => .refused

/-- Sends a message without waiting for an answer. -/
def send (h : Hub) (id : StationId) (m : Message) : Posting Hub := h.post id ⟨m, none⟩

/-- Sends a query. Its number is the count of earlier ones. -/
def ask (h : Hub) (id : StationId) (m : Message) : Posting Hub :=
  (h.post id ⟨m, some h.asked⟩).map fun h => { h with asked := h.asked + 1 }

/-- What became of a query. -/
inductive Inquiry where
  | answered (a : Answer)
  | pending
  /-- The query left its inbox without an answer. -/
  | dropped
deriving Repr, Inhabited

/-- What has become of a query so far. -/
def inquiry (h : Hub) (query : Nat) : Inquiry :=
  match h.answers.get? query with
  | some a => .answered a
  | none =>
    if h.stations.any fun (_, s) => s.inbox.any fun e => e.query == some query then .pending
    else .dropped

/-! ### Work -/

/-- Does one effect of a pool's station. -/
def carryOut (pool : PoolName) (query : Option Nat) (h : Hub) : Effect → Hub
  | .delivery requester response true =>
    match h.exchange.deliver ⟨pool, requester⟩ response with
    | .ok exchange => { h with exchange }
    | .error _ => h
  | .delivery _ _ false => h
  | .event e => h.report pool e
  | .note _ => h
  | .answer a =>
    match query with
    | some number => { h with answers := h.answers.put number a }
    | none => h

/-- Lets a station take the next thing that it has to do. -/
def work? (h : Hub) (id : StationId) : Option Hub := do
  let s ← h.station? id
  let reach (requester : String) : Bool := h.exchange.isRegistered ⟨id.pool, requester⟩
  let turn ← s.take? h.clock.still reach h.faulty.contains (h.isHeld id)
  let started := turn.station.coordinator.watchers.drop s.coordinator.watchers.length
  let h := { h with timed := h.timed ++ started.map fun (w : Watcher) => (id, w.expiry.lease) }
  return turn.effects.foldl (carryOut id.pool turn.query) (h.setStation id turn.station)

/-- Fires the timer of a lease that is due. -/
def fire? (h : Hub) (id : StationId) (lease : Nat) : Option Hub := do
  let s ← h.station? id
  return h.setStation id (← s.fire? h.clock.ticks lease)

end Hub

end LeasePool
