import LeasePool.Provisioner

/-!
A strategy that follows a script instead of what it is asked for. It serves to bring a pool into
states that its own provisioners never reach.
-/
namespace LeasePool

/-- Status changes, slots to append when asked to extend, and a length to cut to and a number to
report when asked to shrink. -/
structure Script where
  changes : List (Nat × SlotStatus)
  additions : List SlotStatus
  cutTo : Option Nat
  report : Nat
deriving Repr

namespace Script

def applyChanges (s : Script) (slots : List Slot) : List Slot :=
  s.changes.foldl (fun slots (index, status) => slots.modify index (Slot.withStatus status)) slots

def extend (s : Script) (pool : PoolName) (_ : Readings) (slots : List Slot) (_ : Nat) :
    List Slot :=
  s.additions.foldl
    (fun slots status =>
      let index := slots.length
      slots ++ [⟨.fresh (pool.resource ++ "-" ++ index.repr) index, status⟩])
    (s.applyChanges slots)

def shrink (s : Script) (slots : List Slot) (_ : Nat) (_ : Bool) : List Slot × Nat :=
  let slots := s.applyChanges slots
  match s.cutTo with
  | some length => (slots.take length, s.report)
  | none => (slots, s.report)

def strategy (s : Script) : Strategy :=
  ⟨"scripted", fun _ _ _ => [], s.extend, s.shrink⟩

end Script

end LeasePool
