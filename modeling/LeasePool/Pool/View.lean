import LeasePool.Pool

/-!
What a pool tells about itself: summary counters, and the slots with their holders together with
the waiting list.
-/
namespace LeasePool

/-- Summary counters of a pool. -/
structure PoolStatus where
  resource : String
  total : Nat
  available : Nat
  waiting : Nat
  allocated : Nat
deriving DecidableEq, Repr, Inhabited

/-- One slot as it is listed. -/
structure SlotView where
  id : String
  index : Nat
  available : Bool
  retired : Bool
  metadata : Fields
  assignedTo : Option String
  acquiredAt : Option Timestamp
deriving Repr, Inhabited

/-- One waiting request as it is listed. -/
structure WaitingView where
  requester : String
  priority : Int
  position : Nat
deriving DecidableEq, Repr, Inhabited

/-- Every slot and every waiting request of a pool. -/
structure Allocation where
  resource : String
  slots : List SlotView
  waiting : List WaitingView
deriving Repr, Inhabited

namespace Allocation

/-- The slot assigned to a requester. -/
def slotOf? (a : Allocation) (requester : String) : Option SlotView :=
  a.slots.find? fun s => s.assignedTo == some requester

/-- The waiting requesters in order. -/
def waitingIds (a : Allocation) : List String := a.waiting.map WaitingView.requester

end Allocation

namespace Pool

def status (p : Pool) (resource : String) : PoolStatus :=
  ⟨resource, p.total, p.free, p.waitingCount, p.grantedCount⟩

/-- The requester that holds the slot at an index. -/
def holderOf? (p : Pool) (index : Nat) : Option String :=
  (p.grants.find? fun grant => grant.2 == index).map Prod.fst

def allocation (p : Pool) (resource : String) : Allocation where
  resource
  slots := p.slots.zipIdx.map fun (slot, index) =>
    { id := slot.resource.id
      index := slot.resource.index
      available := slot.isAvailable
      retired := slot.isRetired
      metadata := slot.resource.metadata
      assignedTo := p.holderOf? index
      acquiredAt := slot.resource.acquiredAt }
  waiting := p.queue.zipIdx.map fun (r, position) => ⟨r.requester, r.priority, position⟩

end Pool

end LeasePool
