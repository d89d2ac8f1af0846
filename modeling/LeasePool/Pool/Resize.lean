import LeasePool.Pool

/-!
Resizing. Growing first returns retired slots to service, lowest index first, and only then adds
slots; shrinking is left to the pool's strategy, and can take only what is available.
-/
namespace LeasePool

/-- What a resize did. -/
structure ResizeOutcome where
  /-- Slots in service before. -/
  previous : Nat
  size : Nat
  /-- Slots that became available. -/
  added : Nat
  /-- Slots that stopped being available. -/
  removed : Nat
deriving DecidableEq, Repr

/-- Returns up to so many retired slots to service, lowest index first. -/
def reactivate : Nat → List Slot → List Slot × Nat
  | _, [] => ([], 0)
  | 0, slots => (slots, 0)
  | n + 1, slot :: rest =>
    if slot.isRetired then
      let (rest, back) := reactivate n rest
      (slot.withStatus .available :: rest, back + 1)
    else
      let (rest, back) := reactivate (n + 1) rest
      (slot :: rest, back)

namespace Pool

/-- Brings `count` more slots into service. -/
def expand (p : Pool) (name : PoolName) (strategy : Strategy) (now : Readings) (count : Nat) :
    Pool × Nat × List Note :=
  let (slots, back) := reactivate count p.slots
  let missing := count - back
  if missing = 0 then ({ p with slots, free := p.free + back }, back, [])
  else
    let extended := strategy.extend name now slots missing
    let created := extended.length - slots.length
    ({ p with slots := extended, free := p.free + (back + created) }, back + created,
      if created = missing then [] else [.unexpectedExtension])

/-- Takes `count` slots out of service, or as many as are available. -/
def shrink (p : Pool) (strategy : Strategy) (count : Nat) : Pool × Nat × List Note :=
  let (slots, removed) := strategy.shrink p.slots count (!p.grants.isEmpty)
  ({ p with slots, free := p.free - removed }, removed,
    if p.free < removed then [.shrinkClamped] else [])

/-- Sets the size to aim for and brings the slots in service as close to it as the grants allow. -/
def resize (p : Pool) (name : PoolName) (strategy : Strategy) (now : Readings) (size : Nat) :
    Pool × ResizeOutcome × List Note :=
  let previous := p.inService
  let p := { p with target := size }
  if previous ≤ size then
    let (p, added, notes) := p.expand name strategy now (size - previous)
    (p, ⟨previous, size, added, 0⟩, notes)
  else
    let (p, removed, notes) := p.shrink strategy (previous - size)
    (p, ⟨previous, size, 0, removed⟩, notes)

end Pool

end LeasePool
