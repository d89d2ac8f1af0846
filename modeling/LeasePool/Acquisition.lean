import LeasePool.Hub

/-!
An acquisition is a client's way to a slot: it opens a mailbox, sends a request, starting the pool
if needed, and waits. A token that fires ends the wait: the request is withdrawn, and grants that came
before the withdrawal are given back. An acquisition whose mailbox is replaced withdraws as well.
-/
namespace LeasePool

/-- Who acquires slots, and the options for the pools that this starts. -/
structure Client where
  space : String
  requester : String
  priority : Int
  options : PoolOptions
deriving Repr, Inhabited

/-- A slot that a client was granted. -/
structure Holding where
  station : StationId
  channel : String
  lease : Nat
  resource : Resource
deriving Repr, Inhabited

/-- The message that gives back one grant and no later one. -/
def Holding.giveBack (g : Holding) : Message := .release g.channel (some g.lease)

/-- What an acquisition does next. -/
inductive Stage where
  /-- Send the request. -/
  | requesting
  /-- Wait for the response or the token. -/
  | waiting
  /-- Send the withdrawal, as the token fired. -/
  | withdrawing
  /-- Send a query. Once it is answered, the withdrawal has been handled. -/
  | asking
  /-- Wait for the answer to the query. -/
  | asked (query : Nat)
  /-- Look into the mailbox for grants that came before the withdrawal. -/
  | collecting
  /-- Give such a grant back. -/
  | returning (channel : String) (lease : Nat)
  /-- Send the withdrawal, as the mailbox was replaced. -/
  | displaced
  | finished (outcome : Except ClientError Holding)
  | aborted
deriving Repr

/-- How an acquisition ends whose pool could not be started. -/
def Stage.unstarted : StartError → Stage
  | .refused e => .finished (.error (.pool e))
  | .overflow => .aborted

structure Acquisition where
  station : StationId
  mailbox : MailboxId
  priority : Int
  /-- The number of the token that ends the wait. -/
  token : Option Nat
  stage : Stage
deriving Repr

namespace Acquisition

def requester (a : Acquisition) : String := a.mailbox.address.requester

def isOver (a : Acquisition) : Bool :=
  match a.stage with
  | .finished _ | .aborted => true
  | _ => false

def outcome? (a : Acquisition) : Option (Except ClientError Holding) :=
  match a.stage with
  | .finished outcome => some outcome
  | _ => none

/-- Opens a mailbox and finds the pool. A pool that cannot be had ends the acquisition, and a start
that breaks off aborts it. -/
def create (h : Hub) (c : Client) (resource : String) (leaseTimeout : Option Duration)
    (token : Option Nat) : Hub × Acquisition :=
  let pool : PoolName := ⟨c.space, resource⟩
  let (exchange, mailbox) := h.exchange.register ⟨pool, c.requester⟩
  let options := { c.options with leaseTimeout := leaseTimeout <|> c.options.leaseTimeout }
  match { h with exchange }.getOrStart pool options with
  | .ok (h, station) => (h, ⟨station, mailbox, c.priority, token, .requesting⟩)
  | .error e =>
    ({ h with exchange := exchange.close mailbox },
     ⟨⟨pool, 0⟩, mailbox, c.priority, token, .unstarted e⟩)

/-- Closes the mailbox and ends in a stage. -/
def conclude (a : Acquisition) (h : Hub) (stage : Stage) : Hub × Acquisition :=
  ({ h with exchange := h.exchange.close a.mailbox }, { a with stage })

def finish (a : Acquisition) (h : Hub) (outcome : Except ClientError Holding) :
    Hub × Acquisition :=
  a.conclude h (.finished outcome)

/-- Gives up an acquisition wherever it is. A request that was sent stays. -/
def abort (a : Acquisition) (h : Hub) : Hub × Acquisition :=
  if a.isOver then (h, a) else a.conclude h .aborted

/-- Takes one step, unless the acquisition is over or has to wait. -/
def step? (a : Acquisition) (h : Hub) (cancelled : Bool) : Option (Hub × Acquisition) :=
  match a.stage with
  | .requesting =>
    match h.send a.station (.request a.requester a.priority) with
    | .accepted h => some (h, { a with stage := .waiting })
    | .full => none
    | .refused => some (a.finish h (.error (.pool (Hub.unavailable a.station.pool))))
  | .waiting =>
    if cancelled then some (h, { a with stage := .withdrawing })
    else match h.exchange.receive a.mailbox with
      | (exchange, .response (.acquired channel lease resource)) =>
        some (a.finish { h with exchange } (.ok ⟨a.station, channel, lease, resource⟩))
      | (exchange, .response .cancelled) => some (a.finish { h with exchange } (.error .cancelled))
      | (_, .ended) => some (h, { a with stage := .displaced })
      | (_, .empty) => none
  | .withdrawing =>
    match h.send a.station (.cancel a.requester) with
    | .accepted h => some (h, { a with stage := .asking })
    | .full => none
    | .refused => some (a.finish h (.error .cancelled))
  | .asking =>
    match h.ask a.station .status with
    | .accepted after => some (after, { a with stage := .asked h.asked })
    | .full => none
    | .refused => some (a.finish h (.error .cancelled))
  | .asked query =>
    match h.inquiry query with
    | .answered _ => some (h, { a with stage := .collecting })
    | .dropped => some (a.finish h (.error .cancelled))
    | .pending => none
  | .collecting =>
    match h.exchange.receive a.mailbox with
    | (exchange, .response (.acquired channel lease _)) =>
      some ({ h with exchange }, { a with stage := .returning channel lease })
    | (exchange, .response .cancelled) => some ({ h with exchange }, a)
    | (_, .empty) | (_, .ended) => some (a.finish h (.error .cancelled))
  | .returning channel lease =>
    match h.send a.station (.release channel (some lease)) with
    | .accepted h => some (h, { a with stage := .collecting })
    | .full => none
    | .refused => some (h, { a with stage := .collecting })
  | .displaced =>
    match h.send a.station (.cancel a.requester) with
    | .accepted h => some (a.finish h (.error (.mailboxClosed a.requester)))
    | .full => none
    | .refused => some (a.finish h (.error (.mailboxClosed a.requester)))
  | .finished _ | .aborted => none

end Acquisition

end LeasePool
