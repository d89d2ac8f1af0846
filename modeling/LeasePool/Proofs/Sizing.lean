import LeasePool.Proofs.Lockstep
import LeasePool.Proofs.Positions

/-!
What a resize comes to. Growing brings back the first retired slots and appends fresh ones for what
is then still missing; shrinking retires the last available slots while something is held, and cuts
the array else. How many slots end up in service depends on the size asked for and on the grants
only, so that of two resizes in a row the second alone decides.
-/
namespace LeasePool

/-- The positions of the available slots. -/
def availableAt (slots : List Slot) : Finset Nat := (slots.findIdxs Slot.isAvailable).toFinset

theorem card_availableAt (slots : List Slot) : (availableAt slots).card = availableCount slots := by
  rw [availableAt, List.toFinset_card_of_nodup List.nodup_findIdxs, List.length_findIdxs]
  rfl

theorem mem_availableAt {slots : List Slot} {i : Nat} :
    i ∈ availableAt slots ↔ ∃ s, slots[i]? = some s ∧ s.status = .available := by
  rw [availableAt, List.mem_toFinset, mem_findIdxs]
  simp only [Slot.isAvailable, beq_iff_eq]

namespace Pool

/-- The pool `q` is the pool `p` resized, and the outcome tells the difference. -/
structure Resized (v : Provisioner) (name : PoolName) (now : Readings) (size : Nat) (p q : Pool)
    (outcome : ResizeOutcome) : Prop where
  queue_eq : q.queue = p.queue
  grants_eq : q.grants = p.grants
  held : ∀ (i : Nat) (s : Slot), p.slots[i]? = some s → s.status = .allocated →
    q.slots[i]? = some s
  target_eq : q.target = size
  inService_eq : q.inService = max size p.grants.length
  free_eq : q.free = size - p.grants.length
  placed : ∀ (i : Nat) (s : Slot), q.slots[i]? = some s → s.resource.index = i
  grown : p.inService ≤ size → q.slots =
    changeAt ((p.slots.findIdxs Slot.isRetired).take (size - p.inService))
        (Slot.withStatus .available) p.slots ++
      v.added name now p.total (size - p.inService - p.retired)
  shrunk : size < p.inService → p.grants ≠ [] → q.slots =
    changeAt ((p.slots.findIdxs Slot.isAvailable).reverse.take (p.inService - size))
      (Slot.withStatus .retired) p.slots
  cut : size < p.inService → p.grants = [] → q.slots = p.slots.take size
  previous_eq : outcome.previous = p.inService
  size_eq : outcome.size = size
  added_eq : outcome.added = (availableAt q.slots \ availableAt p.slots).card
  removed_eq : outcome.removed = (availableAt p.slots \ availableAt q.slots).card

variable {v : Provisioner} {name : PoolName} {p : Pool}

/-! ### Growing -/

theorem grown_eq (v : Provisioner) (name : PoolName) (now : Readings) (slots : List Slot)
    (count : Nat) :
    grown v name now slots count =
      changeAt ((slots.findIdxs Slot.isRetired).take count) (Slot.withStatus .available) slots ++
        v.added name now slots.length (count - retiredCount slots) := by
  have hback := reactivate_snd count slots
  have hmissing : count - (reactivate count slots).2 = count - retiredCount slots := by omega
  rw [grown, hmissing, reactivate_fst, length_changeAt]

/-- What was available is available in a grown array. -/
theorem availableAt_subset_grown (v : Provisioner) (name : PoolName) (now : Readings)
    (slots : List Slot) (count : Nat) :
    availableAt slots ⊆ availableAt (grown v name now slots count) := by
  intro i hi
  obtain ⟨s, hs, hstatus⟩ := mem_availableAt.mp hi
  have hlt : i < (changeAt ((slots.findIdxs Slot.isRetired).take count)
      (Slot.withStatus .available) slots).length := by
    rw [length_changeAt]
    exact (List.getElem?_eq_some_iff.mp hs).1
  rw [mem_availableAt, grown_eq, List.getElem?_append_left hlt, changeAt_getElem?, hs]
  split
  · exact ⟨_, rfl, rfl⟩
  · exact ⟨s, rfl, hstatus⟩

/-! ### Shrinking -/

theorem availableAt_changeAt_retired_subset (places : List Nat) (slots : List Slot) :
    availableAt (changeAt places (Slot.withStatus .retired) slots) ⊆ availableAt slots := by
  intro i hi
  obtain ⟨t, ht, hstatus⟩ := mem_availableAt.mp hi
  rw [changeAt_getElem?] at ht
  split at ht
  · obtain ⟨s, -, rfl⟩ := Option.map_eq_some_iff.mp ht
    cases hstatus
  · exact mem_availableAt.mpr ⟨t, ht, hstatus⟩

theorem availableAt_take_subset (n : Nat) (slots : List Slot) :
    availableAt (slots.take n) ⊆ availableAt slots := by
  intro i hi
  obtain ⟨s, hs, hstatus⟩ := mem_availableAt.mp hi
  rw [List.getElem?_take] at hs
  split at hs
  · exact mem_availableAt.mpr ⟨s, hs, hstatus⟩
  · cases hs

/-! ### Both -/

/-- A resize does to each slot what it should, and reports it. -/
theorem Sound.resized (h : p.Sound v name) (hflags : ExpandedLast p.slots) (now : Readings)
    {size : Nat} (hsize : 0 < size) :
    Resized v name now size p (p.resize name v.strategy now size).1
      (p.resize name v.strategy now size).2.1 := by
  have hservice := h.inService_eq
  have hfree := h.free_eq
  have hcounted := h.counted
  have hsound := h.resize now hsize
  obtain ⟨slots, outcome, heq, hrefit, hcount, -⟩ := h.exists_resize now size
  rw [heq] at hsound ⊢
  by_cases hle : p.inService ≤ size
  · have hgrow := h.resize_grow now hle
    simp only [heq, Prod.mk.injEq, Pool.mk.injEq, and_true] at hgrow
    obtain ⟨rfl, rfl⟩ := hgrow
    have hsub := availableAt_subset_grown v name now p.slots (size - p.inService)
    refine ⟨rfl, rfl, hrefit.held, rfl, hsound.inService_eq, rfl, fun _ _ hs => hsound.index_eq hs,
      fun _ => grown_eq _ _ _ _ _, fun hlt => absurd hle (by omega),
      fun hlt => absurd hle (by omega), rfl, rfl, ?_, ?_⟩
    · rw [Finset.card_sdiff_of_subset hsub, card_availableAt, card_availableAt, hcount, ← hcounted]
      show size - p.inService = _
      omega
    · rw [Finset.sdiff_eq_empty_iff_subset.mpr hsub]
      rfl
  · have hshrink := h.resize_shrink now (Nat.lt_of_not_le hle)
    simp only [heq, Prod.mk.injEq, Pool.mk.injEq, and_true] at hshrink
    obtain ⟨rfl, rfl⟩ := hshrink
    have hsub : availableAt (if p.grants = [] then p.slots.take size else
        (v.shrink p.slots (p.inService - size) true).1) ⊆ availableAt p.slots := by
      split
      · exact availableAt_take_subset size p.slots
      · rw [hflags.shrink_eq, retireLast_fst]
        exact availableAt_changeAt_retired_subset _ p.slots
    refine ⟨rfl, rfl, hrefit.held, rfl, hsound.inService_eq, rfl, fun _ _ hs => hsound.index_eq hs,
      fun hle' => absurd hle' hle, fun _ hbusy => ?_, fun _ hidle => if_pos hidle, rfl, rfl, ?_, ?_⟩
    · simp only [if_neg hbusy, hflags.shrink_eq, retireLast_fst, Bool.and_true]
    · rw [Finset.sdiff_eq_empty_iff_subset.mpr hsub]
      rfl
    · rw [Finset.card_sdiff_of_subset hsub, card_availableAt, card_availableAt, hcount, ← hcounted]
      show min (p.inService - size) p.free = _
      omega

/-- What a resize aims for and how many slots it brings into service does not depend on the
slots. -/
theorem Sound.resize_sizes (h : p.Sound v name) (now : Readings) {size : Nat} (hsize : 0 < size) :
    let q := (p.resize name v.strategy now size).1
    q.grants = p.grants ∧ q.target = size ∧ q.inService = max size p.grants.length ∧
      q.free = size - p.grants.length := by
  have hservice := (h.resize now hsize).inService_eq
  obtain ⟨slots, outcome, heq, -⟩ := h.exists_resize now size
  rw [heq] at hservice ⊢
  exact ⟨rfl, rfl, hservice, rfl⟩

/-- Of two resizes the second alone decides about the sizes. -/
theorem Sound.resize_resize (h : p.Sound v name) (now later : Readings) {size size' : Nat}
    (hsize : 0 < size) (hsize' : 0 < size') :
    let twice := ((p.resize name v.strategy now size).1.resize name v.strategy later size').1
    let once := (p.resize name v.strategy later size').1
    twice.target = once.target ∧ twice.inService = once.inService ∧ twice.free = once.free := by
  obtain ⟨hgrants, -⟩ := h.resize_sizes now hsize
  obtain ⟨-, htarget, hservice, hfree⟩ := h.resize_sizes later hsize'
  obtain ⟨-, htarget', hservice', hfree'⟩ := (h.resize now hsize).resize_sizes later hsize'
  rw [hgrants] at hservice' hfree'
  exact ⟨htarget'.trans htarget.symm, hservice'.trans hservice.symm, hfree'.trans hfree.symm⟩

end Pool

namespace Coordinator

variable {c : Coordinator}

/-- Whatever a pool has gone through, resizing it changes exactly the slots it should, reports how
many, and leads to sizes that depend on the size asked for and on the number of grants only. -/
theorem create_run_resized {name : PoolName} {options : PoolOptions} {now : Readings} {e : Event}
    (hcreate : create name options now = .ok (c, e)) (os : List Occasion) (readings : Readings)
    {size : Nat} (hsize : 0 < size) :
    let d := (c.run os).1
    let result := d.pool.resize d.name d.provisioner.strategy readings size
    d.pool.Resized d.provisioner d.name readings size result.1 result.2.1 ∧
      ∀ (later : Readings) (size' : Nat), 0 < size' →
        let twice := (result.1.resize d.name d.provisioner.strategy later size').1
        let once := (d.pool.resize d.name d.provisioner.strategy later size').1
        twice.target = once.target ∧ twice.inService = once.inService ∧
          twice.free = once.free := by
  have hresting := resting_create hcreate
  have hsound := (hresting.run os).pool
  have hflags := ((ranked_create hcreate).run hresting os).flags
  exact ⟨hsound.resized hflags readings hsize,
    fun later size' hsize' => hsound.resize_resize readings later hsize hsize'⟩

/-- A pool of three slots, one of them held, was cut to one and grows to four. -/
theorem create_run_resized_regrown :
    ∃ c e, create ⟨"space", "disk"⟩ ⟨3, none, .custom "farm" [], 1000⟩ default = .ok (c, e) ∧
      let os := [Message.request "a" 0, .resize 1].map fun m =>
        (⟨default, fun _ => true, .message m⟩ : Occasion)
      let d := (c.run os).1
      let result := d.pool.resize d.name d.provisioner.strategy default 4
      d.pool.slots.map Slot.status = [.allocated, .retired, .retired] ∧
        result.1.slots.map Slot.status = [.allocated, .available, .available, .available] ∧
        result.2.1 = ⟨1, 4, 3, 0⟩ ∧
        d.pool.Resized d.provisioner d.name default 4 result.1 result.2.1 := by
  let c : Coordinator := ⟨⟨"space", "disk"⟩, .custom "farm" [], none,
    .ofSlots ((Provisioner.custom "farm" []).stock ⟨"space", "disk"⟩ default 3), [], 0, []⟩
  have hcreate : create ⟨"space", "disk"⟩ ⟨3, none, .custom "farm" [], 1000⟩ default =
      .ok (c, .started 3 "custom") := rfl
  have hresized := create_run_resized hcreate ([Message.request "a" 0, .resize 1].map fun m =>
    ⟨default, fun _ => true, .message m⟩) default (show 0 < 4 by decide)
  exact ⟨c, _, hcreate, by decide +kernel, by decide +kernel, by decide +kernel, hresized.1⟩

end Coordinator

end LeasePool
