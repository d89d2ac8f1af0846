import LeasePool.Clock
import LeasePool.PoolName
import LeasePool.Resource

/-!
Provisioners make the slots of a pool, add to them and take them out of service. While no slot is
held, shrinking drops slots from the end; while some are, it only retires available slots, from the
end, the custom provisioner those that an expansion added first.
-/
namespace LeasePool

/-- How a pool's slots are made, added and taken out of service. Shrinking reports how many slots
stopped being available. -/
structure Strategy where
  name : String
  stock : PoolName → Readings → Nat → List Slot
  extend : PoolName → Readings → List Slot → Nat → List Slot
  shrink : List Slot → Nat → Bool → List Slot × Nat

/-! ### Taking slots out of service -/

/-- Retires up to so many available slots whose resource satisfies `p`, the first ones first. -/
def retireFirst (p : Resource → Bool) : Nat → List Slot → List Slot × Nat
  | _, [] => ([], 0)
  | 0, slots => (slots, 0)
  | n + 1, slot :: rest =>
    if slot.isAvailable && p slot.resource then
      let (rest, retired) := retireFirst p n rest
      (slot.withStatus .retired :: rest, retired + 1)
    else
      let (rest, retired) := retireFirst p (n + 1) rest
      (slot :: rest, retired)

/-- Retires up to `count` available slots whose resource satisfies `p`, the last ones first. -/
def retireLast (p : Resource → Bool) (slots : List Slot) (count : Nat) : List Slot × Nat :=
  let (kept, retired) := retireFirst p count slots.reverse
  (kept.reverse, retired)

/-- Drops up to `count` slots from the end; counts the available ones among them. -/
def dropLast (slots : List Slot) (count : Nat) : List Slot × Nat :=
  let kept := slots.length - count
  (slots.take kept, availableCount (slots.drop kept))

/-! ### Provisioners -/

/-- How the resources of a pool are made. -/
inductive Provisioner where
  /-- Ids from the resource's name, no metadata but the index. -/
  | plain
  /-- Ids with a label in front, and metadata on top of the index. -/
  | custom (label : String) (overlay : Fields)
deriving Repr, Inhabited

namespace Provisioner

def name : Provisioner → String
  | plain => "default"
  | custom _ _ => "custom"

/-- The resource at an index, made at an instant. -/
def make (p : Provisioner) (pool : PoolName) (now : Timestamp) (index : Nat) : Resource :=
  match p with
  | plain => .fresh (pool.resource ++ "-" ++ index.repr) index
  | custom label overlay =>
    ((Resource.fresh (label ++ ":" ++ pool.resource ++ "-" ++ index.repr) index).withMetadata
      overlay).withField MetaKey.createdAt (.string now.offsetText)

/-- A resource that an expansion adds. The custom provisioner flags it, with the instant at which
the expansion began. -/
def makeExpanded (p : Provisioner) (pool : PoolName) (now start : Timestamp) (index : Nat) :
    Resource :=
  match p with
  | plain => p.make pool now index
  | custom _ _ =>
    ((p.make pool now index).withField MetaKey.expanded (.bool true)).withField
      MetaKey.expandedAt (.string start.offsetText)

/-- The slots of a new pool. -/
def stock (p : Provisioner) (pool : PoolName) (now : Readings) (size : Nat) : List Slot :=
  (List.range size).map fun index => .ofResource (p.make pool (now.made index) index)

/-- The slots with `count` new ones at the end. -/
def extend (p : Provisioner) (pool : PoolName) (now : Readings) (slots : List Slot)
    (count : Nat) : List Slot :=
  slots ++ (List.range count).map fun k =>
    let index := slots.length + k
    .ofResource (p.makeExpanded pool (now.made index) now.expanded index)

/-- Takes up to `count` available slots out of service. -/
def shrink (p : Provisioner) (slots : List Slot) (count : Nat) (busy : Bool) : List Slot × Nat :=
  if !busy then dropLast slots count
  else match p with
    | plain => retireLast (fun _ => true) slots count
    | custom _ _ =>
      let (slots, flagged) := retireLast Resource.isExpanded slots count
      let (slots, others) := retireLast (fun _ => true) slots (count - flagged)
      (slots, flagged + others)

def strategy (p : Provisioner) : Strategy := ⟨p.name, p.stock, p.extend, p.shrink⟩

end Provisioner

end LeasePool
