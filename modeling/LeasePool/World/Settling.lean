import LeasePool.World

/-!
One way for the world to go on, in which everybody waits in line. Stations come first, in the order
in which they got something to do, and each does all that it has to do. Then every timer that is due
fires, in the order in which the timers were started, then acquisitions go on, in the order of their
starts. The world has settled when no action is possible; time passes from one timer to the next,
and the world settles after each.
-/
namespace LeasePool

/-- A running timer, and the action that it takes when it is due. -/
structure Timer where
  deadline : Nat
  action : Action
deriving DecidableEq, Repr

namespace World

/-- Every running timer, those of leases first, in the order of their starts. -/
def timers (w : World) : List Timer :=
  let leases := w.hub.timed.filterMap fun (id, lease) =>
    ((w.hub.station? id).bind fun s => s.timer? lease).map fun v => ⟨v.deadline, .expire id lease⟩
  let alarms := w.alarms.zipIdx.filter fun (a, _) => a.watcher.state = .armed
  leases ++ alarms.map fun (a, number) => ⟨a.watcher.deadline, .ring number⟩

/-- When the next timer is due. -/
def deadline? (w : World) : Option Nat := (w.timers.map Timer.deadline).min?

/-- The stations in line: those that no timer has called, then those with leases whose time is up,
in the order in which the timers of the first ones fired. -/
def line (w : World) : List StationId :=
  let first? (id : StationId) : Option Nat :=
    (w.hub.station? id).bind fun s => s.expired.head?.map Expiry.lease
  w.hub.stations.keys.filter (fun id => (first? id).isNone)
    ++ (w.hub.timed.filter fun (id, lease) => first? id = some lease).map Prod.fst

/-- More actions than the world can take before it settles. A message, a waiting request, a running
timer, an expired lease, a response, a station and an acquisition each lead to fewer actions than
their weight here. -/
def workload (w : World) : Nat :=
  let stations := w.hub.stations.foldl
    (fun n (_, s) => n + s.inbox.length + s.expired.length + s.coordinator.pool.queue.length
      + s.armed.length + 1) 0
  16 * (stations + w.hub.exchange.undelivered + w.acquisitions.length + w.alarms.length + 1)

/-- Takes an action for as long as it is possible. -/
def repeatUpTo (a : Action) : Nat → World → World
  | 0, w => w
  | n + 1, w =>
    match w.perform a with
    | some v => repeatUpTo a n v
    | none => w

/-- Lets the first station in line that has something to do, do it all. -/
def work? (w : World) : Option World :=
  w.line.findSome? fun id =>
    (w.perform (.work id)).map (repeatUpTo (.work id) w.workload)

/-- Fires every timer that is due, if there is one. -/
def ring? (w : World) : Option World :=
  match w.timers.filter fun t => t.deadline ≤ w.ticks with
  | [] => none
  | due => some (due.foldl (fun w t => (w.perform t.action).getD w) w)

/-- Lets the first acquisition that can go on take a step. -/
def proceed? (w : World) : Option World :=
  (List.range w.acquisitions.length).findSome? fun n => w.perform (.proceed n)

/-- What happens next. -/
def next? (w : World) : Option World := w.work? <|> w.ring? <|> w.proceed?

/-- Whether nothing can happen by itself. -/
def isSettled (w : World) : Bool := w.next?.isNone

def settleUpTo : Nat → World → World
  | 0, w => w
  | n + 1, w =>
    match w.next? with
    | some v => settleUpTo n v
    | none => w

/-- Lets everything happen that can happen without time passing. -/
def settle (w : World) : World := settleUpTo w.workload w

/-- Starts an acquisition, which goes on until it has to wait before anything else happens. -/
def launch (w : World) (c : Client) (resource : String) (leaseTimeout : Option Duration)
    (token : Option Nat) : World :=
  repeatUpTo (.proceed w.acquisitions.length) w.workload
    (w.acquire c resource leaseTimeout token)

/-! ### Time -/

def elapseUpTo (deadline : Nat) : Nat → World → World
  | 0, w => w.setTicks deadline
  | n + 1, w =>
    match w.deadline? with
    | some next =>
      if next ≤ deadline then elapseUpTo deadline n (w.setTicks next).settle
      else w.setTicks deadline
    | none => w.setTicks deadline

/-- Lets time pass. Timers that are due at the end fire. -/
def elapse (w : World) (d : Duration) : World :=
  elapseUpTo (w.ticks + d.nanos) w.workload w.settle

/-! ### Talking to stations -/

/-- Sends a message. If there is no room for it, everything else happens first, which makes room. -/
def send (w : World) (id : StationId) (m : Message) : World × Except PoolError Unit :=
  let w := if w.hub.isFull id then w.settle else w
  match w.hub.send id m with
  | .accepted hub => ({ w with hub }, .ok ())
  | .full | .refused => (w, .error (Hub.unavailable id.pool))

/-- Sends a message to the station of a pool, which is started first if none is at work. -/
def signal (w : World) (pool : PoolName) (options : PoolOptions) (m : Message) :
    World × Except StartError StationId :=
  match w.hub.getOrStart pool options with
  | .ok (hub, id) =>
    let (w, sent) := { w with hub }.send id m
    (w, (sent.map fun _ => id).mapError .refused)
  | .error e => (w, .error e)

/-- Sends a query and lets everything happen until its answer is there or is lost. -/
def query (w : World) (id : StationId) (m : Message) : World × Except PoolError Answer :=
  let w := if w.hub.isFull id then w.settle else w
  match w.hub.ask id m with
  | .accepted hub =>
    let after := { w with hub }.settle
    match after.hub.inquiry w.hub.asked with
    | .answered a => (after, .ok a)
    | .pending | .dropped => (after, .error (.queryDropped id.pool.coordinatorId))
  | .full | .refused => (w, .error (Hub.unavailable id.pool))

end World

end LeasePool
