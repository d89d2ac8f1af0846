import LeasePool.Pool.View
import LeasePool.Proofs.Runs

/-!
What a pool tells about itself. A status reads running counters, while an allocation lists the slots
and looks up the holder of each among the grants; that lookup would hide a grant if two requesters
held the same slot. In every state that a coordinator can reach, the two agree with each other, with
the grants and with the waiting list.
-/
namespace LeasePool

/-- The request that is listed. -/
def WaitingView.request (w : WaitingView) : Pending := ⟨w.requester, w.priority⟩

theorem Allocation.assignedTo_of_slotOf? {a : Allocation} {requester : String} {s : SlotView}
    (h : a.slotOf? requester = some s) : s.assignedTo = some requester := by
  simpa using List.find?_some h

namespace Pool

variable {v : Provisioner} {name : PoolName} {p : Pool} {resource requester : String} {i : Nat}

/-- A slot as it is listed at an index. -/
def viewAt (p : Pool) (i : Nat) (s : Slot) : SlotView where
  id := s.resource.id
  index := s.resource.index
  available := s.isAvailable
  retired := s.isRetired
  metadata := s.resource.metadata
  assignedTo := p.holderOf? i
  acquiredAt := s.resource.acquiredAt

/-- A status and an allocation agree with each other, and with the grants and the waiting list. -/
structure Shows (p : Pool) (status : PoolStatus) (a : Allocation) : Prop where
  total_eq : status.total = a.slots.length
  available_eq : status.available = a.slots.countP SlotView.available
  allocated_eq : status.allocated = a.slots.countP fun s => s.assignedTo.isSome
  waiting_eq : status.waiting = a.waiting.length
  one_state : ∀ s ∈ a.slots, [s.available, s.retired, s.assignedTo.isSome].count true = 1
  acquired_iff : ∀ s ∈ a.slots, s.acquiredAt.isSome = s.assignedTo.isSome
  placed : ∀ (i : Nat) (s : SlotView), a.slots[i]? = some s → s.index = i
  slotOf_iff : ∀ (requester : String) (i : Nat),
    (∃ s, a.slots[i]? = some s ∧ a.slotOf? requester = some s) ↔ p.grantOf? requester = some i
  one_slot : ∀ (i j : Nat) (s t : SlotView) (requester : String), a.slots[i]? = some s →
    a.slots[j]? = some t → s.assignedTo = some requester → t.assignedTo = some requester → i = j
  holds_or_waits : ∀ s ∈ a.slots, ∀ requester : String, s.assignedTo = some requester →
    requester ∉ a.waitingIds
  positions_eq : a.waiting.map WaitingView.position = List.range a.waiting.length
  requests_eq : a.waiting.map WaitingView.request = p.queue

/-! ### The waiting list -/

theorem requests_allocation (p : Pool) (resource : String) :
    (p.allocation resource).waiting.map WaitingView.request = p.queue := by
  have hrequest : (WaitingView.request ∘ fun (e : Pending × Nat) =>
      (⟨e.1.requester, e.1.priority, e.2⟩ : WaitingView)) = Prod.fst := rfl
  simp only [allocation, List.map_map]
  rw [hrequest, List.zipIdx_map_fst]

theorem waitingIds_allocation (p : Pool) (resource : String) :
    (p.allocation resource).waitingIds = p.queue.map Pending.requester := by
  rw [← requests_allocation p resource, List.map_map]
  rfl

theorem positions_allocation (p : Pool) (resource : String) :
    (p.allocation resource).waiting.map WaitingView.position =
      List.range (p.allocation resource).waiting.length := by
  have hposition : (WaitingView.position ∘ fun (e : Pending × Nat) =>
      (⟨e.1.requester, e.1.priority, e.2⟩ : WaitingView)) = Prod.snd := rfl
  simp only [allocation, List.map_map, List.length_map, List.length_zipIdx]
  rw [hposition, List.zipIdx_map_snd, List.range_eq_range']

/-! ### Holders -/

theorem allocation_getElem? (p : Pool) (resource : String) (i : Nat) :
    (p.allocation resource).slots[i]? = p.slots[i]?.map (p.viewAt i) := by
  simp only [allocation, List.getElem?_map, List.getElem?_zipIdx, Option.map_map, Nat.zero_add]
  rfl

/-- Looking up the holder of a slot finds whoever was granted it. -/
theorem Accounted.holderOf?_eq_some_iff (h : p.Accounted v name) :
    p.holderOf? i = some requester ↔ p.grants.get? requester = some i := by
  unfold holderOf?
  constructor
  · intro hholder
    obtain ⟨grant, hfind, rfl⟩ := Option.map_eq_some_iff.mp hholder
    have hindex : grant.2 = i := by simpa using List.find?_some hfind
    rw [← hindex]
    exact Assoc.get?_of_mem h.keys_nodup (List.mem_of_find?_eq_some hfind)
  · intro hgrant
    have hmem := Assoc.mem_of_get? hgrant
    cases hfind : p.grants.find? fun grant => grant.2 == i with
    | none =>
      have hnone := List.find?_eq_none.mp hfind _ hmem
      simp at hnone
    | some grant =>
      have hindex : grant.2 = i := by simpa using List.find?_some hfind
      have hother := Assoc.get?_of_mem h.keys_nodup (List.mem_of_find?_eq_some hfind)
      rw [hindex] at hother
      rw [Option.map_some, h.holder_unique hother hgrant]

/-- A slot has a holder exactly if it is allocated. -/
theorem Accounted.isSome_holderOf? (h : p.Accounted v name) {s : Slot} (hs : p.slots[i]? = some s) :
    (p.holderOf? i).isSome = (s.status == .allocated) := by
  rw [Bool.eq_iff_iff, Option.isSome_iff_exists, beq_iff_eq]
  constructor
  · intro hheld
    obtain ⟨requester, hholder⟩ := hheld
    obtain ⟨t, ht, hstatus⟩ := h.exists_slot (h.holderOf?_eq_some_iff.mp hholder)
    rw [hs] at ht
    rw [Option.some.inj ht]
    exact hstatus
  · intro hstatus
    obtain ⟨grant, hmem, hindex⟩ := List.mem_map.mp ((h.held_iff i).mpr ⟨s, hs, hstatus⟩)
    have hgrant : p.grants.get? grant.1 = some grant.2 := Assoc.get?_of_mem h.keys_nodup hmem
    rw [hindex] at hgrant
    exact ⟨grant.1, h.holderOf?_eq_some_iff.mpr hgrant⟩

/-! ### Listed slots -/

/-- Counting listed slots comes to counting slots. -/
theorem countP_allocation {f : SlotView → Bool} {g : Slot → Bool}
    (hfg : ∀ (i : Nat) (s : Slot), p.slots[i]? = some s → f (p.viewAt i s) = g s) :
    (p.allocation resource).slots.countP f = p.slots.countP g := by
  have hentries : p.slots.zipIdx.countP (fun e => f (p.viewAt e.2 e.1)) =
      p.slots.zipIdx.countP (g ∘ Prod.fst) := by
    apply List.countP_congr
    intro e he
    rw [hfg e.2 e.1 (List.mem_zipIdx_iff_getElem?.mp he)]
    rfl
  have hslots : p.slots.countP g = p.slots.zipIdx.countP (g ∘ Prod.fst) := by
    rw [← List.countP_map, List.zipIdx_map_fst]
  rw [hslots, ← hentries]
  simp only [allocation, List.countP_map]
  rfl

theorem viewAt_of_getElem? {s : SlotView} (hs : (p.allocation resource).slots[i]? = some s) :
    ∃ t, p.slots[i]? = some t ∧ s = p.viewAt i t := by
  rw [allocation_getElem?] at hs
  obtain ⟨t, ht, hview⟩ := Option.map_eq_some_iff.mp hs
  exact ⟨t, ht, hview.symm⟩

theorem viewAt_of_mem {s : SlotView} (hs : s ∈ (p.allocation resource).slots) :
    ∃ i t, p.slots[i]? = some t ∧ s = p.viewAt i t := by
  obtain ⟨i, hi⟩ := List.mem_iff_getElem?.mp hs
  exact ⟨i, viewAt_of_getElem? hi⟩

/-- Asking for the slot of a requester finds the one that it was granted. -/
theorem Accounted.slotOf?_iff (h : p.Accounted v name) :
    (∃ s, (p.allocation resource).slots[i]? = some s ∧
      (p.allocation resource).slotOf? requester = some s) ↔ p.grantOf? requester = some i := by
  constructor
  · intro hslot
    obtain ⟨s, hs, hfind⟩ := hslot
    obtain ⟨t, -, rfl⟩ := viewAt_of_getElem? hs
    have hassigned : p.holderOf? i = some requester := Allocation.assignedTo_of_slotOf? hfind
    exact h.holderOf?_eq_some_iff.mp hassigned
  · intro hgrant
    obtain ⟨t, ht, -⟩ := h.exists_slot hgrant
    have hholder : p.holderOf? i = some requester := h.holderOf?_eq_some_iff.mpr hgrant
    have hs : (p.allocation resource).slots[i]? = some (p.viewAt i t) := by
      rw [allocation_getElem?, ht, Option.map_some]
    refine ⟨p.viewAt i t, hs, ?_⟩
    cases hfind : (p.allocation resource).slotOf? requester with
    | none =>
      have hnone := List.find?_eq_none.mp hfind _ (List.mem_of_getElem? hs)
      simp [viewAt, hholder] at hnone
    | some s =>
      obtain ⟨j, t', ht', rfl⟩ := viewAt_of_mem (List.mem_of_find?_eq_some hfind)
      have hassigned : p.holderOf? j = some requester := Allocation.assignedTo_of_slotOf? hfind
      have hsame := h.holderOf?_eq_some_iff.mp hassigned
      rw [show p.grants.get? requester = some i from hgrant, Option.some.injEq] at hsame
      subst hsame
      rw [ht, Option.some.injEq] at ht'
      rw [ht']

/-- A pool whose accounts balance shows itself as it is. -/
theorem Sound.shows (h : p.Sound v name) (resource : String) :
    p.Shows (p.status resource) (p.allocation resource) where
  total_eq := by simp [status, allocation, total]
  available_eq := by
    rw [countP_allocation (g := Slot.isAvailable) fun _ _ _ => rfl]
    exact h.counted
  allocated_eq := by
    rw [countP_allocation (g := fun s => s.status == .allocated) fun _ _ hs =>
      h.isSome_holderOf? hs]
    exact h.allocatedCount_eq.symm
  waiting_eq := by simp [status, allocation, waitingCount]
  one_state s hs := by
    obtain ⟨i, t, ht, rfl⟩ := viewAt_of_mem hs
    have hholder : (p.viewAt i t).assignedTo.isSome = (t.status == .allocated) :=
      h.isSome_holderOf? ht
    rw [hholder]
    cases hstatus : t.status <;> simp [viewAt, Slot.isAvailable, Slot.isRetired, hstatus]
  acquired_iff s hs := by
    obtain ⟨i, t, ht, rfl⟩ := viewAt_of_mem hs
    have hholder : (p.viewAt i t).assignedTo.isSome = (t.status == .allocated) :=
      h.isSome_holderOf? ht
    rw [hholder, Bool.eq_iff_iff, beq_iff_eq]
    exact h.orderly.stamped_iff t (List.mem_of_getElem? ht)
  placed i s hs := by
    obtain ⟨t, ht, rfl⟩ := viewAt_of_getElem? hs
    exact h.index_eq ht
  slotOf_iff _ _ := h.slotOf?_iff
  one_slot i j s t requester hs ht hholds hholds' := by
    obtain ⟨s', -, rfl⟩ := viewAt_of_getElem? hs
    obtain ⟨t', -, rfl⟩ := viewAt_of_getElem? ht
    have hgrant := h.holderOf?_eq_some_iff.mp hholds
    have hgrant' := h.holderOf?_eq_some_iff.mp hholds'
    rw [hgrant] at hgrant'
    exact Option.some.inj hgrant'
  holds_or_waits s hs requester hholds hwaits := by
    obtain ⟨i, t, -, rfl⟩ := viewAt_of_mem hs
    have hgrant := Assoc.mem_of_get? (h.holderOf?_eq_some_iff.mp hholds)
    rw [waitingIds_allocation] at hwaits
    exact h.consistent.queue_new requester hwaits (List.mem_map_of_mem hgrant)
  positions_eq := p.positions_allocation resource
  requests_eq := p.requests_allocation resource

end Pool

namespace Coordinator

/-- After every run of a coordinator, both queries leave it as it is, and what they answer agrees
with each other, with the grants and with the waiting list. -/
theorem create_run_shows {c : Coordinator} {name : PoolName} {options : PoolOptions}
    {now : Readings} {e : Event} (hcreate : create name options now = .ok (c, e))
    (os : List Occasion) (clock : Readings) (reach : String → Bool) :
    let d := (c.run os).1
    let status := d.pool.status d.name.resource
    let a := d.pool.allocation d.name.resource
    d.step clock reach (.message .status) = (d, [.note .handling, .answer (.status status)]) ∧
      d.step clock reach (.message .allocation) =
        (d, [.note .handling, .answer (.allocation a)]) ∧
      d.pool.Shows status a := by
  intro d status a
  have hpool : d.pool.Sound d.provisioner d.name := ((resting_create hcreate).run os).pool
  exact ⟨rfl, rfl, hpool.shows d.name.resource⟩

/-- Two slots are held, the pool is to shrink to one while somebody waits, and the first slot is
given back: it is retired, the second one is held, and neither is free. -/
theorem create_run_shows_retired :
    ∃ c e, create ⟨"space", "disk"⟩ ⟨2, none, .plain, 1000⟩ default = .ok (c, e) ∧
      let os := [Message.request "a" 0, .request "b" 0, .request "c" 4, .resize 1,
        .release (releaseChannel "a") none].map fun m =>
          (⟨default, fun _ => true, .message m⟩ : Occasion)
      let pool := (c.run os).1.pool
      pool.status "disk" = ⟨"disk", 2, 0, 1, 1⟩ ∧
        (pool.allocation "disk").slots.map SlotView.retired = [true, false] ∧
        (pool.allocation "disk").waiting = [⟨"c", 4, 0⟩] ∧
        ((pool.allocation "disk").slotOf? "b").isSome = true ∧
        pool.Shows ⟨"disk", 2, 0, 1, 1⟩ (pool.allocation "disk") := by
  have hcreate : create ⟨"space", "disk"⟩ ⟨2, none, .plain, 1000⟩ default = .ok (_, _) := rfl
  obtain ⟨-, -, hshows⟩ := create_run_shows hcreate
    ([Message.request "a" 0, .request "b" 0, .request "c" 4, .resize 1,
      .release (releaseChannel "a") none].map fun m => ⟨default, fun _ => true, .message m⟩)
    default fun _ => true
  exact ⟨_, _, hcreate, by decide +kernel, by decide +kernel, by decide +kernel,
    by decide +kernel, hshows⟩

end Coordinator

end LeasePool
