import LeasePool.Proofs.Accounting

/-!
Resizing. Growing brings exactly as many slots into service as asked for, first the retired ones and
then new ones at the end; shrinking takes as many out of service as asked for, or all that are
available. Neither touches a held slot, the grants or the waiting list, and the accounts balance
again at the new target.
-/
namespace LeasePool.Pool

variable {v : Provisioner} {name : PoolName} {p : Pool}

/-! ### Growing -/

/-- The slots after so many more were brought into service. -/
def grown (v : Provisioner) (name : PoolName) (now : Readings) (slots : List Slot)
    (count : Nat) : List Slot :=
  (reactivate count slots).1 ++
    v.added name now (reactivate count slots).1.length (count - (reactivate count slots).2)

theorem expand_eq (p : Pool) (v : Provisioner) (name : PoolName) (now : Readings) (count : Nat) :
    p.expand name v.strategy now count =
      ({ p with slots := grown v name now p.slots count, free := p.free + count }, count, []) := by
  have hback := reactivate_snd count p.slots
  unfold expand grown
  by_cases hmissing : count - (reactivate count p.slots).2 = 0
  · have hall : (reactivate count p.slots).2 = count := by omega
    have hnone (start : Nat) : v.added name now start 0 = [] := rfl
    simp only [hall, Nat.sub_self, hnone, List.append_nil, if_true]
  · have hcreated : ((reactivate count p.slots).1 ++
        v.added name now (reactivate count p.slots).1.length
          (count - (reactivate count p.slots).2)).length - (reactivate count p.slots).1.length =
        count - (reactivate count p.slots).2 := by
      rw [List.length_append, v.length_added]
      omega
    have hsum : (reactivate count p.slots).2 + (count - (reactivate count p.slots).2) = count := by
      omega
    simp only [hmissing, if_false, Provisioner.strategy, v.extend_eq, hcreated, hsum, if_true]

theorem refit_grown (v : Provisioner) (name : PoolName) (now : Readings) (slots : List Slot)
    (count : Nat) : Refit v name slots (grown v name now slots count) := by
  have hkept := forall₂_kept_reactivate count slots
  apply Refit.of_append hkept
  rw [hkept.length_eq]
  exact fun k t ht => v.added_getElem? name now _ _ k t ht

theorem availableCount_grown (v : Provisioner) (name : PoolName) (now : Readings)
    (slots : List Slot) (count : Nat) :
    availableCount (grown v name now slots count) = availableCount slots + count := by
  have hback := reactivate_snd count slots
  have hkept := availableCount_reactivate count slots
  have hnew := v.countP_added name now (reactivate count slots).1.length
    (count - (reactivate count slots).2) Slot.isAvailable true fun _ => rfl
  simp only [availableCount, grown, List.countP_append, hnew, if_true] at hkept ⊢
  omega

theorem retiredCount_grown_le (v : Provisioner) (name : PoolName) (now : Readings)
    (slots : List Slot) (count : Nat) :
    retiredCount (grown v name now slots count) ≤ retiredCount slots := by
  have hkept := retiredCount_reactivate count slots
  have hnew := v.countP_added name now (reactivate count slots).1.length
    (count - (reactivate count slots).2) Slot.isRetired false fun _ => rfl
  simp only [retiredCount, grown, List.countP_append, hnew, Bool.false_eq_true, if_false] at hkept ⊢
  omega

/-! ### Shrinking -/

theorem Accounted.shrink_eq_of_busy (h : p.Accounted v name) (target count : Nat)
    (hbusy : p.grants ≠ []) :
    ({ p with target } : Pool).shrink v.strategy count =
      ({ p with
        slots := (v.shrink p.slots count true).1
        free := p.free - min count p.free
        target }, min count p.free, []) := by
  have hbusy' : (!p.grants.isEmpty) = true := by simpa using hbusy
  have hremoved := v.shrink_snd p.slots count
  rw [← h.counted] at hremoved
  unfold shrink
  simp only [Provisioner.strategy, hbusy', hremoved]
  rw [if_neg (by omega)]

theorem Sound.all_available (h : p.Sound v name) (hidle : p.grants = []) :
    ∀ s ∈ p.slots, s.isAvailable = true := by
  have htotal := h.total_eq
  rw [hidle, h.idle_retired hidle, h.counted] at htotal
  simp only [List.length_nil, Nat.add_zero, availableCount, Pool.total] at htotal
  exact List.countP_eq_length.mp htotal

theorem Sound.shrink_eq_of_idle (h : p.Sound v name) (target count : Nat)
    (hidle : p.grants = []) :
    ({ p with target } : Pool).shrink v.strategy count =
      ({ p with
        slots := p.slots.take (p.slots.length - count)
        free := p.free - min count p.free
        target }, min count p.free, []) := by
  have havailable := h.all_available hidle
  have hcounted := h.counted
  rw [availableCount, List.countP_eq_length.mpr havailable] at hcounted
  have hdropped : availableCount (p.slots.drop (p.slots.length - count)) = min count p.free := by
    have hdrop : ∀ s ∈ p.slots.drop (p.slots.length - count), s.isAvailable = true :=
      fun s hs => havailable s (List.mem_of_mem_drop hs)
    rw [availableCount, List.countP_eq_length.mpr hdrop, List.length_drop, hcounted]
    omega
  have hidle' : (!p.grants.isEmpty) = false := by simpa using hidle
  have hshrink : v.shrink p.slots count false =
      (p.slots.take (p.slots.length - count),
        availableCount (p.slots.drop (p.slots.length - count))) := rfl
  unfold shrink
  simp only [Provisioner.strategy, hidle', hshrink, hdropped]
  rw [if_neg (by omega)]

/-! ### Both -/

theorem Sound.resize_grow (h : p.Sound v name) (now : Readings) {size : Nat}
    (hle : p.inService ≤ size) :
    p.resize name v.strategy now size =
      ({ p with
        slots := grown v name now p.slots (size - p.inService)
        free := size - p.grants.length
        target := size }, ⟨p.inService, size, size - p.inService, 0⟩, []) := by
  have hservice := h.inService_eq
  have hfree := h.free_eq
  have hsum : p.free + (size - p.inService) = size - p.grants.length := by omega
  unfold resize
  rw [if_pos hle, expand_eq]
  simp only [hsum]

theorem Sound.resize_shrink (h : p.Sound v name) (now : Readings) {size : Nat}
    (hlt : size < p.inService) :
    p.resize name v.strategy now size =
      ({ p with
        slots := if p.grants = [] then p.slots.take size
          else (v.shrink p.slots (p.inService - size) true).1
        free := size - p.grants.length
        target := size }, ⟨p.inService, size, 0, min (p.inService - size) p.free⟩, []) := by
  have hservice := h.inService_eq
  have hfree := h.free_eq
  have hleft : p.free - min (p.inService - size) p.free = size - p.grants.length := by omega
  unfold resize
  rw [if_neg (by omega)]
  by_cases hidle : p.grants = []
  · have htotal := h.total_eq
    rw [hidle, h.idle_retired hidle] at htotal
    simp only [List.length_nil, Pool.total] at htotal
    rw [hidle, List.length_nil] at hservice hfree
    have hcut : p.slots.length - (p.inService - size) = size := by omega
    rw [h.shrink_eq_of_idle size (p.inService - size) hidle, if_pos hidle, hcut, hleft]
  · rw [h.shrink_eq_of_busy size (p.inService - size) hidle, if_neg hidle, hleft]

/-- A resize changes the slots, the free count and the target only, and no held slot. -/
theorem Sound.exists_resize (h : p.Sound v name) (now : Readings) (size : Nat) :
    ∃ slots outcome, p.resize name v.strategy now size =
        ({ p with slots, free := size - p.grants.length, target := size }, outcome, []) ∧
      Refit v name p.slots slots ∧ availableCount slots = size - p.grants.length ∧
      (p.grants = [] → retiredCount slots = 0) := by
  have hservice := h.inService_eq
  have hfree := h.free_eq
  have hcounted := h.counted
  by_cases hle : p.inService ≤ size
  · refine ⟨_, _, h.resize_grow now hle, refit_grown v name now p.slots _, ?_, ?_⟩
    · rw [availableCount_grown]
      omega
    · intro hidle
      have hretired := h.idle_retired hidle
      have hgrown := retiredCount_grown_le v name now p.slots (size - p.inService)
      unfold retired at hretired
      omega
  · refine ⟨_, _, h.resize_shrink now (by omega), ?_⟩
    by_cases hidle : p.grants = []
    · have havailable := h.all_available hidle
      have htake : ∀ s ∈ p.slots.take size, s.isAvailable = true :=
        fun s hs => havailable s (List.mem_of_mem_take hs)
      have hrefit : Refit v name p.slots ((p.slots.take size).map id) :=
        Refit.of_take size id (fun s _ => Slot.Kept.refl s) (h.not_allocated_of_idle hidle)
      rw [if_pos hidle]
      refine ⟨by rwa [List.map_id] at hrefit, ?_, fun _ => ?_⟩
      · rw [availableCount, List.countP_eq_length.mpr havailable] at hcounted
        rw [availableCount, List.countP_eq_length.mpr htake, List.length_take]
        rw [hidle, List.length_nil] at hservice hfree ⊢
        omega
      · apply List.countP_eq_zero.mpr
        intro s hs
        have hstatus := htake s hs
        simp only [Slot.isAvailable, beq_iff_eq] at hstatus
        simp [Slot.isRetired, hstatus]
    · rw [if_neg hidle]
      refine ⟨Refit.of_forall₂ (v.forall₂_kept_shrink p.slots _), ?_,
        fun hidle' => absurd hidle' hidle⟩
      have hshrunk := v.availableCount_shrink p.slots (p.inService - size)
      rw [v.shrink_snd, ← hcounted] at hshrunk
      omega

theorem Sound.resize (h : p.Sound v name) (now : Readings) {size : Nat} (hsize : 0 < size) :
    (p.resize name v.strategy now size).1.Sound v name := by
  obtain ⟨slots, outcome, heq, hrefit, hcount, hretired⟩ := h.exists_resize now size
  rw [heq]
  refine ⟨⟨hcount.symm, rfl, hsize, h.known_nodup, h.indices_nodup, ?_, ?_⟩, hretired⟩
  · exact fun i => (h.held_iff i).trans (hrefit.allocated_iff i).symm
  · exact fun i s hs => hrefit.fits h.fits i s hs

end LeasePool.Pool
