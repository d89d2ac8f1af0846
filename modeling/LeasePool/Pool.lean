import LeasePool.Assoc
import LeasePool.Note
import LeasePool.Provisioner

/-!
The state of one pool: its slots, a running count of the available ones, the waiting list, and
which requester holds which slot. A slot that is given back while the pool is above its target goes
out of service; once nothing is held the pool is cut back to its target.
-/
namespace LeasePool

/-- A request waiting for a slot. The priority is reported and has no effect. -/
structure Pending where
  requester : String
  priority : Int
deriving DecidableEq, Repr, Inhabited

structure Pool where
  slots : List Slot
  /-- The running count of available slots. -/
  free : Nat
  queue : List Pending
  /-- The slot index that each requester holds. -/
  grants : Assoc String Nat
  /-- The size asked for last. -/
  target : Nat
deriving Repr, Inhabited

namespace Pool

/-- A pool over new slots. -/
def ofSlots (slots : List Slot) : Pool := ⟨slots, availableCount slots, [], [], slots.length⟩

/-- The most slots that can be held. Their array takes at most half as many bytes as a word can
count, eighty a slot; memory that runs out before that is not modelled. -/
def maxTotal : Nat := Text.wordMax / 2 / 80

def total (p : Pool) : Nat := p.slots.length

def retired (p : Pool) : Nat := retiredCount p.slots

/-- The slots that are not retired. -/
def inService (p : Pool) : Nat := p.total - p.retired

def waitingCount (p : Pool) : Nat := p.queue.length

def grantedCount (p : Pool) : Nat := p.grants.length

/-- The slot index that a requester holds. -/
def grantOf? (p : Pool) (requester : String) : Option Nat := p.grants.get? requester

def isWaiting (p : Pool) (requester : String) : Bool :=
  p.queue.any fun r => r.requester == requester

/-! ### Grants -/

/-- Grants the first available slot. When the count promises one and there is none, the count is
reset. -/
def allocate (p : Pool) (now : Timestamp) (requester : String) :
    Pool × Option Resource × List Note :=
  if p.free = 0 then (p, none, [])
  else match p.slots.findIdx? Slot.isAvailable with
    | none => ({ p with free := 0 }, none, [.countDisagrees])
    | some index =>
      let slots := p.slots.modify index (Slot.allocate now)
      ({ p with slots, free := p.free - 1, grants := p.grants.put requester index },
        slots[index]?.map Slot.resource, [])

/-- Takes back a grant that could not be delivered. -/
def rollback (p : Pool) (index : Nat) (requester : String) : Pool :=
  if p.grantOf? requester ≠ some index then p
  else
    let grants := p.grants.erase requester
    if index < p.slots.length then
      { p with
        slots := p.slots.modify index (Slot.giveBack .available)
        free := p.free + 1
        grants }
    else { p with grants }

/-- Cuts an idle pool back to its target and puts every slot into service. -/
def compact (p : Pool) : Pool × List Note :=
  if p.slots.length ≤ p.target ∧ p.retired = 0 then (p, [])
  else
    let slots := (p.slots.take p.target).map (Slot.withStatus .available)
    ({ p with slots, free := slots.length }, [.slotsDropped])

/-- Ends a grant. The slot goes out of service while the pool is above its target; the status is
the one the slot has in the end. -/
def release (p : Pool) (index : Nat) (requester : String) :
    Pool × Option SlotStatus × List Note :=
  if p.grantOf? requester ≠ some index then (p, none, [])
  else
    let p := { p with grants := p.grants.erase requester }
    if index < p.slots.length then
      let status : SlotStatus := if p.target < p.inService then .retired else .available
      let p := { p with
        slots := p.slots.modify index (Slot.giveBack status)
        free := if status == SlotStatus.available then p.free + 1 else p.free }
      let (p, notes) := if p.grants.isEmpty then p.compact else (p, [])
      (p, some ((p.slots[index]?.map Slot.status).getD status), notes)
    else (p, none, [])

/-! ### Waiting list -/

/-- Adds a request at the end and gives its position. -/
def enqueue (p : Pool) (r : Pending) : Pool × Nat :=
  ({ p with queue := p.queue ++ [r] }, p.queue.length)

def dequeue (p : Pool) : Pool × Option Pending :=
  match p.queue with
  | [] => (p, none)
  | r :: rest => ({ p with queue := rest }, some r)

/-- Puts a request back at the front. -/
def requeue (p : Pool) (r : Pending) : Pool := { p with queue := r :: p.queue }

/-- Removes a requester's first request from the list. -/
def withdraw (p : Pool) (requester : String) : Pool × Option Pending :=
  let mine (r : Pending) : Bool := r.requester == requester
  ({ p with queue := p.queue.eraseP mine }, p.queue.find? mine)

end Pool

end LeasePool
