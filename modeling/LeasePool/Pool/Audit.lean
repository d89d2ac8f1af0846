import LeasePool.Pool

/-!
The accounting rules of a pool and a check of them. The counter agrees with the slots; every slot
is available, granted or retired; grants hold allocated slots, one each; no requester is known
twice; slots are retired only while something is held; every resource knows its position.
-/
namespace LeasePool

/-- A broken accounting rule. -/
inductive Violation where
  | wrongCount (counted available : Nat)
  | wrongSum (available granted retired total : Nat)
  | grantedTwice (index : Nat)
  | notAllocated (requester : String) (index : Nat)
  | knownTwice (requester : String)
  | retiredWhileIdle (retired : Nat)
  | misplaced (id : String) (index position : Nat)
deriving DecidableEq, Repr

def Violation.message : Violation → String
  | wrongCount counted available =>
    s!"available_count {counted} but {available} slots are available"
  | wrongSum available granted retired total =>
    s!"{available} available + {granted} granted + {retired} retired != {total} slots"
  | grantedTwice index => s!"slot {index} granted twice"
  | notAllocated requester index => s!"{requester} holds slot {index} which is not allocated"
  | knownTwice requester => s!"{requester} appears more than once"
  | retiredWhileIdle retired => s!"{retired} retired slots with no active grants"
  | misplaced id index position => s!"record {id} has index {index} at position {position}"

namespace Pool

/-- The first grant that shares its slot with an earlier one or holds no allocated slot. -/
def badGrant? (slots : List Slot) (seen : List Nat) : List (String × Nat) → Option Violation
  | [] => none
  | (requester, index) :: rest =>
    if index ∈ seen then some (.grantedTwice index)
    else if slots[index]?.map Slot.status = some .allocated then
      badGrant? slots (index :: seen) rest
    else some (.notAllocated requester index)

/-- The first waiting requester that is already known. -/
def repeated? (known : List String) : List Pending → Option Violation
  | [] => none
  | r :: rest =>
    if r.requester ∈ known then some (.knownTwice r.requester)
    else repeated? (r.requester :: known) rest

/-- The first resource that does not know its position. -/
def misplaced? (slots : List Slot) : Option Violation :=
  slots.zipIdx.findSome? fun (slot, position) =>
    if slot.resource.index = position then none
    else some (.misplaced slot.resource.id slot.resource.index position)

/-- The first broken rule, if any. -/
def audit (p : Pool) : Option Violation :=
  let available := availableCount p.slots
  if available ≠ p.free then some (.wrongCount p.free available)
  else if p.free + p.grantedCount + p.retired ≠ p.total then
    some (.wrongSum p.free p.grantedCount p.retired p.total)
  else
    ((badGrant? p.slots [] p.grants).or (repeated? p.grants.keys p.queue)).or
      (if 0 < p.retired ∧ p.grants.isEmpty = true then some (.retiredWhileIdle p.retired)
       else misplaced? p.slots)

end Pool

end LeasePool
