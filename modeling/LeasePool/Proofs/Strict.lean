import LeasePool.Proofs.Runs
import Mathlib.Data.Nat.PSub

/-!
The operations of a pool and its coordinator in a strict form. A strict operation has no result
where the ordinary one would repair, ignore or clamp something that its own bookkeeping rules out,
and where a subtraction would go below zero. On a coordinator at rest a strict step has a result and
it is that of the ordinary step, so that no such branch is ever taken in a run.
-/
namespace LeasePool

/-! ### Strict pools -/

/-- Shrinking, where the second pass of the custom provisioner takes what the first one left. -/
def Provisioner.shrink? (v : Provisioner) (slots : List Slot) (count : Nat) (busy : Bool) :
    Option (List Slot × Nat) :=
  if !busy then some (dropLast slots count)
  else match v with
    | plain => some (retireLast (fun _ => true) slots count)
    | custom _ _ => do
      let (slots, flagged) := retireLast Resource.isExpanded slots count
      let left ← Nat.psub count flagged
      let (slots, others) := retireLast (fun _ => true) slots left
      some (slots, flagged + others)

namespace Pool

def inService? (p : Pool) : Option Nat := Nat.psub p.total p.retired

/-- A count that promises a slot where there is none has no result. -/
def allocate? (p : Pool) (now : Timestamp) (requester : String) :
    Option (Pool × Option Resource × List Note) :=
  if p.free = 0 then some (p, none, [])
  else match p.slots.findIdx? Slot.isAvailable with
    | none => none
    | some index => do
      let slots := p.slots.modify index (Slot.allocate now)
      let free ← Nat.psub p.free 1
      some ({ p with slots, free, grants := p.grants.put requester index },
        slots[index]?.map Slot.resource, [])

/-- Only a grant of a slot that exists can be taken back. -/
def rollback? (p : Pool) (index : Nat) (requester : String) : Option Pool :=
  if p.grantOf? requester = some index ∧ index < p.slots.length then
    some { p with
      slots := p.slots.modify index (Slot.giveBack .available)
      free := p.free + 1
      grants := p.grants.erase requester }
  else none

/-- Only a grant of a slot that exists can be ended. -/
def release? (p : Pool) (index : Nat) (requester : String) :
    Option (Pool × Option SlotStatus × List Note) :=
  if p.grantOf? requester ≠ some index then none
  else do
    let p := { p with grants := p.grants.erase requester }
    let inService ← p.inService?
    if index < p.slots.length then
      let status : SlotStatus := if p.target < inService then .retired else .available
      let p := { p with
        slots := p.slots.modify index (Slot.giveBack status)
        free := if status == SlotStatus.available then p.free + 1 else p.free }
      let (p, notes) := if p.grants.isEmpty then p.compact else (p, [])
      some (p, some ((p.slots[index]?.map Slot.status).getD status), notes)
    else none

/-- The provisioner must make exactly the slots that are missing. -/
def expand? (p : Pool) (name : PoolName) (v : Provisioner) (now : Readings) (count : Nat) :
    Option (Pool × Nat × List Note) := do
  let (slots, back) := reactivate count p.slots
  let missing ← Nat.psub count back
  if missing = 0 then some ({ p with slots, free := p.free + back }, back, [])
  else
    let extended := v.extend name now slots missing
    let created ← Nat.psub extended.length slots.length
    if created = missing then
      some ({ p with slots := extended, free := p.free + (back + created) }, back + created, [])
    else none

/-- No more slots may go out of service than are available. -/
def shrink? (p : Pool) (v : Provisioner) (count : Nat) : Option (Pool × Nat × List Note) := do
  let (slots, removed) ← v.shrink? p.slots count (!p.grants.isEmpty)
  let free ← Nat.psub p.free removed
  some ({ p with slots, free }, removed, [])

def resize? (p : Pool) (name : PoolName) (v : Provisioner) (now : Readings) (size : Nat) :
    Option (Pool × ResizeOutcome × List Note) := do
  let previous ← p.inService?
  let p := { p with target := size }
  if previous ≤ size then
    let more ← Nat.psub size previous
    let (p, added, notes) ← p.expand? name v now more
    some (p, ⟨previous, size, added, 0⟩, notes)
  else
    let less ← Nat.psub previous size
    let (p, removed, notes) ← p.shrink? v less
    some (p, ⟨previous, size, 0, removed⟩, notes)

end Pool

/-! ### Strict coordinators -/

namespace Coordinator

def tryGrant? (c : Coordinator) (clock : Readings) (reach : String → Bool) (r : Pending) :
    Option (Coordinator × List Effect × GrantOutcome) := do
  match ← c.pool.allocate? (clock.acquired r.requester) r.requester with
  | (pool, none, notes) => some ({ c with pool }, notes.map .note, .noCapacity)
  | (pool, some resource, notes) =>
    let lease := c.nextLease
    let c := { c with pool, nextLease := lease + 1 }
    let delivered := reach r.requester
    let sent : Effect :=
      .delivery r.requester (.acquired (releaseChannel r.requester) lease resource) delivered
    if delivered then
      some (c.startLease clock lease resource.index r.requester,
        notes.map .note ++
          [sent, .event (.granted r.requester resource.id resource.index c.leaseTimeout)],
        .granted)
    else
      let pool ← c.pool.rollback? resource.index r.requester
      some ({ c with pool },
        notes.map .note ++
          [sent, .note .grantUndeliverable, .event (.rolledBack r.requester resource.index)],
        .rolledBack)

def acquire? (c : Coordinator) (clock : Readings) (reach : String → Bool) (r : Pending) :
    Option (Coordinator × List Effect) :=
  if (c.pool.grantOf? r.requester).isSome || c.pool.isWaiting r.requester then
    some (c, [.note .duplicateIgnored, .event (.duplicate r.requester)])
  else do
    let (c, effects, outcome) ←
      if c.pool.waitingCount = 0 then c.tryGrant? clock reach r else some (c, [], .noCapacity)
    if outcome = .noCapacity then
      let (pool, position) := c.pool.enqueue r
      some ({ c with pool }, effects ++ [.event (.queued r.requester r.priority position)])
    else some (c, effects)

/-- A request that was taken from the waiting list must be used up. -/
def grantNext? (c : Coordinator) (clock : Readings) (reach : String → Bool) :
    Option (Coordinator × List Effect × Bool) :=
  if c.pool.free = 0 then some (c, [], false)
  else match c.pool.dequeue with
    | (_, none) => some (c, [], false)
    | (pool, some r) => do
      match ← { c with pool }.tryGrant? clock reach r with
      | (_, _, .noCapacity) => none
      | (c, effects, _) => some (c, effects, true)

def drainUpTo? (clock : Readings) (reach : String → Bool) : Nat → Coordinator →
    Option (Coordinator × List Effect)
  | 0, c => some (c, [])
  | n + 1, c => do
    match ← c.grantNext? clock reach with
    | (c, effects, false) => some (c, effects)
    | (c, effects, true) =>
      let (c, more) ← drainUpTo? clock reach n c
      some (c, effects ++ more)

def drain? (c : Coordinator) (clock : Readings) (reach : String → Bool) :
    Option (Coordinator × List Effect) :=
  drainUpTo? clock reach (c.pool.queue.length + 1) c

/-- A lease must have a grant. -/
def finish? (c : Coordinator) (clock : Readings) (reach : String → Bool) (lease : Lease)
    (reason : ReleaseReason) : Option (Coordinator × List Effect) := do
  match ← c.pool.release? lease.index lease.requester with
  | (_, none, _) => none
  | (pool, some _, notes) =>
    let held := Duration.between lease.grantedAt clock.ended
    let (c, more) ← { c with pool }.drain? clock reach
    some (c, notes.map .note ++
      [.note .slotFreed, .event (.released lease.requester lease.index reason held)] ++ more)

def release? (c : Coordinator) (clock : Readings) (reach : String → Bool) (channel : String)
    (only : Option Nat) : Option (Coordinator × List Effect) :=
  match c.leases.get? channel with
  | none => some (c, [.note .unknownLeaseIgnored])
  | some lease =>
    if only.any (· ≠ lease.id) then some (c, [.note .staleReleaseIgnored])
    else
      let c := { c with leases := c.leases.erase channel }.cancelWatcher lease.id
      c.finish? clock reach lease .released

def expire? (c : Coordinator) (clock : Readings) (reach : String → Bool) (e : Expiry) :
    Option (Coordinator × List Effect) :=
  match c.leases.get? e.channel with
  | none => some (c, [.note .staleTimeoutIgnored])
  | some lease =>
    if lease.id = e.lease then
      { c with leases := c.leases.erase e.channel }.finish? clock reach lease .timedOut
    else some (c, [.note .staleTimeoutIgnored])

def resize? (c : Coordinator) (clock : Readings) (reach : String → Bool) (size : Nat) :
    Option (Coordinator × List Effect) :=
  if size = 0 then some (c, [.note .emptyResizeIgnored, .event (.resizeRejected size)])
  else do
    let (pool, outcome, notes) ← c.pool.resize? c.name c.provisioner clock size
    let (c, more) ← { c with pool }.drain? clock reach
    some (c, notes.map .note ++
      [.note .resizeApplied, .event (.resized outcome.previous outcome.size pool.free)] ++ more)

def handle? (c : Coordinator) (clock : Readings) (reach : String → Bool) (m : Message) :
    Option (Coordinator × List Effect) := do
  let (c, effects) ← match m with
    | .request requester priority => c.acquire? clock reach ⟨requester, priority⟩
    | .release channel lease => c.release? clock reach channel lease
    | .resize size => c.resize? clock reach size
    | .cancel requester => some (c.cancel reach requester)
    | .status => some (c, [.answer (.status (c.pool.status c.name.resource))])
    | .allocation => some (c, [.answer (.allocation (c.pool.allocation c.name.resource))])
  some (c, .note .handling :: effects)

def step? (c : Coordinator) (clock : Readings) (reach : String → Bool) : Input →
    Option (Coordinator × List Effect)
  | .message m => c.handle? clock reach m
  | .expiry e => c.expire? clock reach e

/-- A run of which every step is strict. -/
def run? (c : Coordinator) : List Occasion → Option (Coordinator × List Effect)
  | [] => some (c, [])
  | o :: rest => do
    let (c', effects) ← c.step? o.clock o.reach o.input
    let (c'', more) ← run? c' rest
    some (c'', effects ++ more)

end Coordinator

/-! ### Pools whose accounts balance -/

theorem Provisioner.shrink?_eq (v : Provisioner) (slots : List Slot) (count : Nat) (busy : Bool) :
    v.shrink? slots count busy = some (v.shrink slots count busy) := by
  unfold shrink? shrink
  cases busy with
  | false => rfl
  | true =>
    cases v with
    | plain => rfl
    | custom label overlay =>
      have hflagged := retireLast_snd Resource.isExpanded slots count
      have hle : (retireLast Resource.isExpanded slots count).2 ≤ count := by omega
      simp [Nat.psub_eq_sub hle]

namespace Pool

variable {v : Provisioner} {name : PoolName} {p : Pool}

/-- There are never more retired slots than slots. -/
theorem inService?_eq (p : Pool) : p.inService? = some p.inService :=
  Nat.psub_eq_sub List.countP_le_length

theorem Accounted.allocate?_eq (h : p.Accounted v name) (now : Timestamp) (r : String) :
    p.allocate? now r = some (p.allocate now r) := by
  unfold allocate? allocate
  by_cases hfree : p.free = 0
  · rw [if_pos hfree, if_pos hfree]
  · obtain ⟨index, s, hfirst⟩ := h.exists_isFirst (Nat.pos_of_ne_zero hfree)
    have hone : Nat.psub p.free 1 = some (p.free - 1) := Nat.psub_eq_sub (by omega)
    rw [if_neg hfree, if_neg hfree, hfirst.1]
    simp only [hone, Option.bind_eq_bind, Option.bind_some]

theorem rollback?_eq {index : Nat} {r : String} (hgrant : p.grants.get? r = some index)
    (hlt : index < p.slots.length) : p.rollback? index r = some (p.rollback index r) := by
  have hheld : p.grantOf? r = some index := hgrant
  unfold rollback? rollback
  rw [if_pos ⟨hheld, hlt⟩, if_neg (not_not.mpr hheld)]
  simp only [hlt, if_true]

theorem release?_eq {index : Nat} {r : String} (hgrant : p.grants.get? r = some index)
    (hlt : index < p.slots.length) : p.release? index r = some (p.release index r) := by
  have hheld : p.grantOf? r = some index := hgrant
  unfold release? release
  rw [if_neg (not_not.mpr hheld), if_neg (not_not.mpr hheld)]
  simp [inService?_eq, hlt]

theorem expand?_eq (p : Pool) (v : Provisioner) (name : PoolName) (now : Readings) (count : Nat) :
    p.expand? name v now count = some (p.expand name v.strategy now count) := by
  have hback := reactivate_snd count p.slots
  have hle : (reactivate count p.slots).2 ≤ count := by omega
  unfold expand? expand
  simp only [Nat.psub_eq_sub hle, Option.bind_eq_bind, Option.bind_some]
  by_cases hmissing : count - (reactivate count p.slots).2 = 0
  · rw [if_pos hmissing, if_pos hmissing]
  · rw [if_neg hmissing, if_neg hmissing]
    have hlength := v.length_added name now (reactivate count p.slots).1.length
      (count - (reactivate count p.slots).2)
    simp [Provisioner.strategy, v.extend_eq, hlength, Nat.psub_eq_sub]

/-- No more slots go out of service than are available. -/
theorem shrink_snd_le (v : Provisioner) (slots : List Slot) (count : Nat) (busy : Bool) :
    (v.shrink slots count busy).2 ≤ availableCount slots := by
  cases busy with
  | false =>
    show availableCount (slots.drop (slots.length - count)) ≤ availableCount slots
    exact (List.drop_sublist _ slots).countP_le
  | true =>
    have hremoved := v.shrink_snd slots count
    omega

theorem shrink?_eq (hcounted : p.free = availableCount p.slots) (v : Provisioner) (count : Nat) :
    p.shrink? v count = some (p.shrink v.strategy count) := by
  have hle := shrink_snd_le v p.slots count (!p.grants.isEmpty)
  rw [← hcounted] at hle
  have hclamp : ¬ p.free < (v.shrink p.slots count (!p.grants.isEmpty)).2 := by omega
  unfold shrink? shrink
  simp [Provisioner.strategy, v.shrink?_eq, Nat.psub_eq_sub hle, hclamp]

theorem resize?_eq (hcounted : p.free = availableCount p.slots) (v : Provisioner)
    (name : PoolName) (now : Readings) (size : Nat) :
    p.resize? name v now size = some (p.resize name v.strategy now size) := by
  unfold resize? resize
  simp only [inService?_eq, Option.bind_eq_bind, Option.bind_some]
  by_cases hle : p.inService ≤ size
  · rw [if_pos hle, if_pos hle, Nat.psub_eq_sub hle]
    simp [expand?_eq]
  · have hge : size ≤ p.inService := by omega
    have hcounted' : ({ p with target := size } : Pool).free =
        availableCount ({ p with target := size } : Pool).slots := hcounted
    rw [if_neg hle, if_neg hle, Nat.psub_eq_sub hge]
    simp [shrink?_eq hcounted']

end Pool

/-! ### Coordinators at rest -/

namespace Coordinator

variable {c : Coordinator}

theorem Sound.tryGrant?_eq {r : Pending} (h : c.Sound) (clock : Readings) (reach : String → Bool)
    (hnew : ¬ c.pool.Knows r.requester) :
    c.tryGrant? clock reach r = some (c.tryGrant clock reach r) := by
  unfold tryGrant? Coordinator.tryGrant
  generalize clock.acquired r.requester = now
  rw [h.pool.allocate?_eq now r.requester]
  by_cases hfree : c.pool.free = 0
  · rw [Pool.allocate_of_free_eq_zero now r.requester hfree]
    rfl
  · have hpos : 0 < c.pool.free := Nat.pos_of_ne_zero hfree
    obtain ⟨index, s, hfirst⟩ := h.pool.exists_isFirst hpos
    have hgrant := ((Pool.Accounted.not_knows_iff c.pool r.requester).mp hnew).1
    have hplace : s.resource.index = index := h.pool.index_eq hfirst.2
    have hindex : (s.allocate now).resource.index = index := hplace
    have hheld : (c.pool.grant now index r.requester).grants.get? r.requester =
        some index := by
      show Assoc.get? r.requester (c.pool.grants ++ [(r.requester, index)]) = some index
      rw [← Assoc.put_of_get?_eq_none index hgrant, Assoc.get?_put, if_pos rfl]
    have hlt : index < (c.pool.grant now index r.requester).slots.length := by
      show index < (c.pool.slots.modify index (Slot.allocate now)).length
      rw [List.length_modify]
      exact (List.getElem?_eq_some_iff.mp hfirst.2).1
    rw [Pool.allocate_of_isFirst now hpos hfirst hgrant]
    cases reach r.requester <;> simp [hindex, Pool.rollback?_eq hheld hlt]

theorem Sound.acquire?_eq {r : Pending} (h : c.Sound) (clock : Readings) (reach : String → Bool) :
    c.acquire? clock reach r = some (c.acquire clock reach r) := by
  unfold acquire? Coordinator.acquire
  by_cases hknown : c.pool.Knows r.requester
  · rw [if_pos ((c.knows_iff r.requester).mpr hknown),
      if_pos ((c.knows_iff r.requester).mpr hknown)]
  · have hnew := fun hdup => hknown ((c.knows_iff r.requester).mp hdup)
    rw [if_neg hnew, if_neg hnew, h.tryGrant?_eq clock reach hknown]
    by_cases hempty : c.pool.waitingCount = 0
    · simp only [hempty, if_true, Option.bind_eq_bind, Option.bind_some]
      split <;> rfl
    · simp [hempty]

theorem Sound.grantNext?_eq (h : c.Sound) (clock : Readings) (reach : String → Bool) :
    c.grantNext? clock reach = some (c.grantNext clock reach) := by
  unfold grantNext? Coordinator.grantNext
  by_cases hfree : c.pool.free = 0
  · rw [if_pos hfree, if_pos hfree]
  · rw [if_neg hfree, if_neg hfree]
    cases hqueue : c.pool.queue with
    | nil => simp [Pool.dequeue, hqueue]
    | cons r rest =>
      obtain ⟨hsound, hnew⟩ := h.dequeue hqueue
      obtain ⟨effects, c', outcome, htry, houtcome, -⟩ :=
        hsound.tryGrant clock reach (Nat.pos_of_ne_zero hfree) hnew
      have hstrict := hsound.tryGrant?_eq clock reach hnew
      rw [htry] at hstrict
      unfold Coordinator.withQueue at htry hstrict
      -- both sides branch on the outcome, and `houtcome` rules out the branch where they differ
      simp only [Pool.dequeue, hqueue, htry, hstrict, Option.bind_eq_bind, Option.bind_some]

/-- The induction is on the number of rounds; each round that goes on was an offer, which keeps the
coordinator sound. -/
theorem Sound.drainUpTo?_eq (clock : Readings) (reach : String → Bool) (n : Nat) (h : c.Sound) :
    drainUpTo? clock reach n c = some (Coordinator.drainUpTo clock reach n c) := by
  induction n generalizing c with
  | zero => rfl
  | succ n ih =>
    rw [drainUpTo?, h.grantNext?_eq clock reach, Coordinator.drainUpTo]
    by_cases hrest : c.Settled
    · rw [hrest.grantNext clock reach]
      rfl
    · obtain ⟨hfree, hwaits⟩ := not_or.mp hrest
      have hpos : 0 < c.pool.free := Nat.pos_of_ne_zero hfree
      obtain ⟨r, rest, hqueue⟩ := List.exists_cons_of_ne_nil hwaits
      obtain ⟨effects, c', hnext, hoffer⟩ := h.grantNext clock reach hpos hqueue
      obtain ⟨hsound, hnew⟩ := h.dequeue hqueue
      have hsound' : c'.Sound := hoffer.sound hsound hpos hnew
      rw [hnext]
      simp [ih hsound']

theorem Sound.drain?_eq (h : c.Sound) (clock : Readings) (reach : String → Bool) :
    c.drain? clock reach = some (c.drain clock reach) :=
  h.drainUpTo?_eq clock reach _

theorem Sound.finish?_eq {channel : String} {l : Lease} (h : c.Sound) (clock : Readings)
    (reach : String → Bool) (hlease : c.leases.get? channel = some l) (reason : ReleaseReason) :
    finish? { c with leases := c.leases.erase channel } clock reach l reason =
      some (Coordinator.finish { c with leases := c.leases.erase channel } clock reach l
        reason) := by
  obtain ⟨-, hgrant⟩ := h.grant_of_lease channel l hlease
  obtain ⟨s, hs, -⟩ := h.pool.exists_slot hgrant
  have hlt : l.index < c.pool.slots.length := (List.getElem?_eq_some_iff.mp hs).1
  obtain ⟨status, notes, hrelease, -⟩ := Pool.release_of_grant hgrant hlt
  have hdrain := (h.closed hlease).drain?_eq clock reach
  unfold Coordinator.closed at hdrain
  unfold finish? Coordinator.finish
  simp [Pool.release?_eq hgrant hlt, hrelease, hdrain]

theorem Sound.release?_eq (h : c.Sound) (clock : Readings) (reach : String → Bool)
    (channel : String) (only : Option Nat) :
    c.release? clock reach channel only = some (c.release clock reach channel only) := by
  unfold release? Coordinator.release
  cases hlease : c.leases.get? channel with
  | none => rfl
  | some l =>
    have hfinish := (h.cancelWatcher l.id).finish?_eq clock reach hlease .released
    by_cases honly : only.any (· ≠ l.id) = true
    · simp only [honly, if_true]
    · simp only [honly, Bool.false_eq_true, if_false]
      exact hfinish

theorem Sound.expire?_eq (h : c.Sound) (clock : Readings) (reach : String → Bool) (e : Expiry) :
    c.expire? clock reach e = some (c.expire clock reach e) := by
  unfold expire? Coordinator.expire
  cases hlease : c.leases.get? e.channel with
  | none => rfl
  | some l =>
    by_cases hid : l.id = e.lease
    · simp only [hid, if_true]
      exact h.finish?_eq clock reach hlease .timedOut
    · simp only [hid, if_false]

theorem Sound.resize?_eq (h : c.Sound) (clock : Readings) (reach : String → Bool) (size : Nat) :
    c.resize? clock reach size = some (c.resize clock reach size) := by
  unfold resize? Coordinator.resize
  by_cases hsize : size = 0
  · rw [if_pos hsize, if_pos hsize]
  · have hpool := h.pool.resize clock (Nat.pos_of_ne_zero hsize)
    obtain ⟨slots, outcome, hresize, -, -, -⟩ := h.pool.exists_resize clock size
    rw [hresize] at hpool
    have hdrain := (h.of_pool _ hpool rfl).drain?_eq clock reach
    rw [if_neg hsize, if_neg hsize, Pool.resize?_eq h.pool.counted, hresize]
    simp [hdrain]

/-- A strict step of a sound coordinator has a result, that of the ordinary step. -/
theorem Sound.step?_eq (h : c.Sound) (clock : Readings) (reach : String → Bool) (input : Input) :
    c.step? clock reach input = some (c.step clock reach input) := by
  cases input with
  | expiry e => exact h.expire?_eq clock reach e
  | message m =>
    show c.handle? clock reach m = some (c.handle clock reach m)
    unfold handle? handle
    cases m with
    | request requester priority => simp [h.acquire?_eq clock reach]
    | release channel only => simp [h.release?_eq clock reach channel only]
    | resize size => simp [h.resize?_eq clock reach size]
    | cancel requester => rfl
    | status => rfl
    | allocation => rfl

theorem Resting.run?_eq (h : c.Resting) (os : List Occasion) : c.run? os = some (c.run os) := by
  induction os generalizing c with
  | nil => rfl
  | cons o os ih =>
    rw [run?, h.toSound.step?_eq, run_cons]
    simp [ih (h.step o)]

/-! ### What is logged -/

theorem Drained.not_isDefensive {clock : Readings} {reach : String → Bool} {c' : Coordinator}
    {effects : List Effect} (hdrain : Drained clock reach c effects c') :
    ∀ n ∈ effects.filterMap Effect.note?, n.isDefensive = false := by
  induction hdrain with
  | done hrest => exact nofun
  | serve hfree hqueue hoffer hmore ih =>
    rw [List.filterMap_append]
    refine List.forall_mem_append.mpr ⟨?_, ih⟩
    cases hoffer <;> simp [Effect.note?, Note.isDefensive]

theorem closing_not_isDefensive (clock : Readings) (l : Lease) (reason : ReleaseReason)
    {notes : List Note} (hnotes : ∀ n ∈ notes, n = .slotsDropped) :
    ∀ n ∈ (closing clock l reason notes).filterMap Effect.note?, n.isDefensive = false := by
  intro n hn
  obtain ⟨effect, heffect, hnote⟩ := List.mem_filterMap.mp hn
  rcases List.mem_append.mp heffect with hlogged | hreport
  · obtain ⟨m, hm, rfl⟩ := List.mem_map.mp hlogged
    rw [← Option.some.inj hnote, hnotes m hm]
    rfl
  · rcases List.mem_pair.mp hreport with rfl | rfl
    · rw [← Option.some.inj hnote]
      rfl
    · cases hnote

theorem Stepped.not_isDefensive {clock : Readings} {reach : String → Bool} {c' : Coordinator}
    {input : Input} {effects : List Effect} (hstep : Stepped clock reach c input effects c') :
    ∀ n ∈ effects.filterMap Effect.note?, n.isDefensive = false := by
  cases hstep with
  | intro hchange hdrain =>
    rw [List.filterMap_append]
    refine List.forall_mem_append.mpr ⟨?_, hdrain.not_isDefensive⟩
    cases hchange with
    | released hlease honly hnotes =>
      exact List.forall_mem_cons.mpr ⟨rfl, closing_not_isDefensive clock _ _ hnotes⟩
    | expired hlease hnotes => exact closing_not_isDefensive clock _ _ hnotes
    | strayRelease channel only n hstray hn =>
      rcases hn with rfl | rfl <;> simp [Effect.note?, Note.isDefensive]
    | withdrawn requester hwaits =>
      cases reach requester <;> simp [Effect.note?, Note.isDefensive]
    | _ => simp [Effect.note?, Note.isDefensive]

theorem Resting.run_not_isDefensive (h : c.Resting) (os : List Occasion) :
    ∀ n ∈ (c.run os).2.filterMap Effect.note?, n.isDefensive = false := by
  induction os generalizing c with
  | nil => exact nofun
  | cons o os ih =>
    rw [run_cons, List.filterMap_append]
    exact List.forall_mem_append.mpr ⟨(h.stepped o).not_isDefensive, ih (h.step o)⟩

/-! ### Every run is strict -/

/-- A pool of positive size can be created, and every run of its coordinator goes through strict
steps only: none of them repairs, ignores or clamps anything or subtracts too much, and none of
them logs that it did. -/
theorem create_run_strict (name : PoolName) (options : PoolOptions) (now : Readings)
    (hsize : 0 < options.size) :
    ∃ c e, create name options now = .ok (c, e) ∧
      ∀ os, c.run? os = some (c.run os) ∧
        ∀ n ∈ (c.run os).2.filterMap Effect.note?, n.isDefensive = false := by
  obtain ⟨c, e, hcreate⟩ := exists_create name now hsize
  have hrest := resting_create hcreate
  exact ⟨c, e, hcreate, fun os => ⟨hrest.run?_eq os, hrest.run_not_isDefensive os⟩⟩

/-- The case of three slots of the custom provisioner, with a lease timeout. -/
theorem create_run_strict_three :
    0 < (PoolOptions.mk 3 (some .zero) (.custom "gpu" []) 1000).size ∧
      ∃ c e, create ⟨"space", "gpu"⟩ ⟨3, some .zero, .custom "gpu" [], 1000⟩ default =
          .ok (c, e) ∧
        ∀ os, c.run? os = some (c.run os) ∧
          ∀ n ∈ (c.run os).2.filterMap Effect.note?, n.isDefensive = false :=
  ⟨by decide, create_run_strict _ _ _ (by decide)⟩

end Coordinator

end LeasePool
