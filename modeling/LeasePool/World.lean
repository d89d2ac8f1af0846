import LeasePool.Acquisition

/-!
The world is a hub with the acquisitions on it, the tokens that can end them, and alarms, which are
timers that belong to no lease. What can happen by itself is split into small actions, which may be
taken in any order; time moves only when it is told to.
-/
namespace LeasePool

/-- A timer on its own, which a token cancels. -/
structure Alarm where
  watcher : Watcher
  token : Nat
deriving DecidableEq, Repr, Inhabited

structure World where
  hub : Hub
  /-- Every acquisition so far, in the order of their starts. -/
  acquisitions : List Acquisition
  /-- How many tokens there are. -/
  tokens : Nat
  /-- The tokens that have fired. -/
  fired : List Nat
  /-- Every alarm so far, in the order of their starts. -/
  alarms : List Alarm
  /-- What the alarms have reported, in order. -/
  rung : List Expiry
deriving Repr

/-- Something that can happen by itself. -/
inductive Action where
  /-- A station takes the next thing to do. -/
  | work (id : StationId)
  /-- The timer of a lease fires. -/
  | expire (id : StationId) (lease : Nat)
  /-- An alarm rings. -/
  | ring (alarm : Nat)
  /-- An acquisition takes a step. -/
  | proceed (acquisition : Nat)
deriving DecidableEq, Repr

namespace World

def idle (clock : Clock) : World := ⟨.idle clock, [], 0, [], [], []⟩

def ticks (w : World) : Nat := w.hub.clock.ticks

/-! ### What is done from outside -/

/-- Starts an acquisition. Its number is the count of earlier ones. -/
def acquire (w : World) (c : Client) (resource : String) (leaseTimeout : Option Duration)
    (token : Option Nat) : World :=
  let (hub, a) := Acquisition.create w.hub c resource leaseTimeout token
  { w with hub, acquisitions := w.acquisitions ++ [a] }

def abort (w : World) (acquisition : Nat) : World :=
  match w.acquisitions[acquisition]? with
  | some a =>
    let (hub, a) := a.abort w.hub
    { w with hub, acquisitions := w.acquisitions.set acquisition a }
  | none => w

/-- Makes a token. Its number is the count of earlier ones. -/
def addToken (w : World) : World := { w with tokens := w.tokens + 1 }

/-- Fires a token. Alarms of the token that have not rung are cancelled. -/
def fire (w : World) (token : Nat) : World :=
  { w with
    fired := token :: w.fired
    alarms := w.alarms.map fun a =>
      if a.token = token then { a with watcher := a.watcher.disarm .cancelled } else a }

/-- Starts an alarm, with a new token. -/
def watch (w : World) (e : Expiry) (timeout : Duration) : World :=
  let alarm : Alarm := ⟨⟨e, w.ticks + timeout.nanos, .armed⟩, w.tokens⟩
  { w.addToken with alarms := w.alarms ++ [alarm] }

/-- Moves the running clock forward. The calendar does not depend on it. -/
def setTicks (w : World) (ticks : Nat) : World :=
  { w with hub := { w.hub with clock := { w.hub.clock with ticks := max w.ticks ticks } } }

/-! ### What happens by itself -/

/-- Takes an action if it is possible now. -/
def perform (w : World) : Action → Option World
  | .work id => (w.hub.work? id).map fun hub => { w with hub }
  | .expire id lease => (w.hub.fire? id lease).map fun hub => { w with hub }
  | .ring alarm => do
    let a ← w.alarms[alarm]?
    guard (a.watcher.state = .armed ∧ a.watcher.deadline ≤ w.ticks)
    let a := { a with watcher := a.watcher.disarm .fired }
    return { w with alarms := w.alarms.set alarm a, rung := w.rung ++ [a.watcher.expiry] }
  | .proceed acquisition => do
    let a ← w.acquisitions[acquisition]?
    let (hub, a) ← a.step? w.hub (a.token.any w.fired.contains)
    return { w with hub, acquisitions := w.acquisitions.set acquisition a }

end World

end LeasePool
