import LeasePool.Proofs.Accounting

/-!
Giving back one slot. A slot that is given back goes out of service while the pool is above its
target; when it was the last one held, the pool is cut to its target. Either way the accounts stay
balanced, and every other held slot stays as it is.
-/
namespace LeasePool.Pool

variable {v : Provisioner} {name : PoolName} {p : Pool}

/-- What becomes of a slot that is given back now. -/
def statusBack (p : Pool) : SlotStatus := if p.target < p.inService then .retired else .available

/-- The pool after the slot at an index was given back, before the array is cut. -/
def vacate (p : Pool) (index : Nat) (requester : String) : Pool :=
  { p with
    slots := p.slots.modify index (Slot.giveBack p.statusBack)
    free := if p.statusBack == SlotStatus.available then p.free + 1 else p.free
    grants := p.grants.erase requester }

/-- The pool with its array cut if nothing is held. -/
def tidy (p : Pool) : Pool := if p.grants.isEmpty then p.compact.1 else p

theorem release_of_grant {index : Nat} {r : String} (hgrant : p.grants.get? r = some index)
    (hlt : index < p.slots.length) :
    ∃ status notes, p.release index r = ((p.vacate index r).tidy, some status, notes) ∧
      ∀ n ∈ notes, n = .slotsDropped := by
  have hnotes : ∀ n ∈ (p.vacate index r).compact.2, n = .slotsDropped := by
    unfold compact
    split <;> simp
  have hgrants : (p.vacate index r).grants.isEmpty = (p.grants.erase r).isEmpty := rfl
  unfold release tidy
  rw [if_neg (by simp [grantOf?, hgrant])]
  simp only [hlt, if_true, hgrants]
  by_cases hempty : (p.grants.erase r).isEmpty = true
  · rw [if_pos hempty, if_pos hempty]
    exact ⟨_, _, rfl, hnotes⟩
  · rw [if_neg hempty, if_neg hempty]
    exact ⟨_, _, rfl, by simp⟩

theorem statusBack_ne_allocated (p : Pool) : p.statusBack ≠ .allocated := by
  unfold statusBack
  split <;> simp

theorem vacate_getElem?_self (r : String) {index : Nat} {s : Slot}
    (hs : p.slots[index]? = some s) :
    (p.vacate index r).slots[index]? = some (s.giveBack p.statusBack) := by
  rw [vacate, List.getElem?_modify_eq, hs]
  rfl

theorem vacate_getElem?_of_ne (p : Pool) (r : String) {index j : Nat} (hne : index ≠ j) :
    (p.vacate index r).slots[j]? = p.slots[j]? := by
  rw [vacate, List.getElem?_modify_ne _ _ hne]

theorem fits_giveBack {index : Nat} {s : Slot} {status : SlotStatus}
    (hstatus : status ≠ .allocated) (h : s.Fits v name index) :
    (s.giveBack status).Fits v name index :=
  ⟨h.1, by simp [Slot.giveBack, hstatus]⟩

/-- A slot goes out of service exactly if more are held than aimed for, so that the free slots go
on to number the target less the grants. -/
theorem Accounted.statusBack_eq (h : p.Accounted v name) :
    p.statusBack = if p.target < p.grants.length then .retired else .available := by
  have hservice := h.inService_eq
  unfold statusBack
  by_cases hover : p.target < p.grants.length
  · rw [if_pos hover, if_pos (by omega)]
  · rw [if_neg hover, if_neg (by omega)]

theorem Accounted.vacate {index : Nat} {r : String} (h : p.Accounted v name)
    (hgrant : p.grants.get? r = some index) : (p.vacate index r).Accounted v name := by
  obtain ⟨s, hs, hstatus⟩ := h.exists_slot hgrant
  have hlength := Assoc.length_erase h.keys_nodup hgrant
  have hback := p.statusBack_ne_allocated
  have hentries : ∀ e ∈ p.grants, e.1 ≠ r ↔ e.2 ≠ index := by
    intro e he
    have heq : e.1 = r ↔ e.2 = index := by
      constructor
      · intro hr
        have hget := Assoc.get?_of_mem h.keys_nodup (show (r, e.2) ∈ p.grants from hr ▸ he)
        rw [hgrant, Option.some.injEq] at hget
        exact hget.symm
      · intro hi
        exact h.holder_unique (hi ▸ Assoc.get?_of_mem h.keys_nodup he) hgrant
    exact not_congr heq
  constructor
  · have hcount := countP_modify Slot.isAvailable (Slot.giveBack p.statusBack) p.slots index s hs
    have hbefore : s.isAvailable = false := by simp [Slot.isAvailable, hstatus]
    have hafter : (s.giveBack p.statusBack).isAvailable = (p.statusBack == .available) := rfl
    rw [hbefore, hafter] at hcount
    have hcounted := h.counted
    simp only [availableCount, Pool.vacate] at hcounted ⊢
    simp only [Bool.false_eq_true, if_false] at hcount
    split at hcount <;> simp_all
  · have hbalance := h.free_eq
    simp only [Pool.vacate, h.statusBack_eq]
    by_cases hover : p.target < p.grants.length
    · simp only [if_pos hover, show (SlotStatus.retired == SlotStatus.available) = false from rfl,
        Bool.false_eq_true, if_false]
      omega
    · simp only [if_neg hover, beq_self_eq_true, if_true]
      omega
  · exact h.target_pos
  · have hsub : List.Sublist (p.grants.erase r).keys p.grants.keys := by
      rw [Assoc.keys_erase]
      exact List.filter_sublist
    exact (hsub.append_right _).nodup h.known_nodup
  · exact (List.filter_sublist.map Prod.snd).nodup h.indices_nodup
  · intro j
    by_cases hj : index = j
    · subst j
      rw [vacate_getElem?_self r hs]
      constructor
      · intro hmem
        obtain ⟨e, he, heq⟩ := List.mem_map.mp hmem
        obtain ⟨hold, hne⟩ := List.mem_filter.mp he
        exact absurd heq ((hentries e hold).mp (by simpa using hne))
      · rintro ⟨t, ht, hallocated⟩
        rw [← Option.some.inj ht] at hallocated
        exact absurd hallocated hback
    · rw [vacate_getElem?_of_ne p r hj, ← h.held_iff j]
      simp only [Pool.vacate, Assoc.erase, List.mem_map, List.mem_filter]
      constructor
      · rintro ⟨e, ⟨he, -⟩, heq⟩
        exact ⟨e, he, heq⟩
      · rintro ⟨e, he, heq⟩
        have hne : e.2 ≠ index := by
          rw [heq]
          exact Ne.symm hj
        exact ⟨e, ⟨he, by simpa using (hentries e he).mpr hne⟩, heq⟩
  · intro j t ht
    by_cases hj : index = j
    · subst j
      rw [vacate_getElem?_self r hs, Option.some.injEq] at ht
      rw [← ht]
      exact fits_giveBack hback (h.fits index s hs)
    · rw [vacate_getElem?_of_ne p r hj] at ht
      exact h.fits j t ht

/-! ### Cutting an idle pool -/

/-- Whatever an idle pool has gone through, cutting leaves as many available slots as it aims for,
and no others. -/
theorem Accounted.compact_eq (h : p.Accounted v name) (hidle : p.grants = []) :
    p.compact.1 = { p with
      slots := (p.slots.take p.target).map (Slot.withStatus .available)
      free := p.target } := by
  have htotal := h.total_eq
  have hfree := h.free_eq
  rw [hidle] at htotal hfree
  simp only [List.length_nil, Pool.total] at htotal hfree
  have hlength : ((p.slots.take p.target).map (Slot.withStatus .available)).length = p.target := by
    rw [List.length_map, List.length_take]
    omega
  unfold compact
  by_cases hfits : p.slots.length ≤ p.target ∧ p.retired = 0
  · have hsame : ∀ s ∈ p.slots, s.withStatus .available = id s := by
      intro s hs
      have hretired := List.countP_eq_zero.mp hfits.2 s hs
      have hheld := h.not_allocated_of_idle hidle s hs
      have hstatus : s.status = .available := by
        cases hs' : s.status with
        | available => rfl
        | allocated => exact absurd hs' hheld
        | retired => simp [Slot.isRetired, hs'] at hretired
      simp [Slot.withStatus, ← hstatus]
    have hslots : (p.slots.take p.target).map (Slot.withStatus .available) = p.slots := by
      rw [List.take_of_length_le hfits.1, List.map_congr_left hsame, List.map_id]
    have hcount : p.free = p.target := by omega
    rw [if_pos hfits, hslots]
    exact congrArg (fun free => ({ p with free } : Pool)) hcount
  · rw [if_neg hfits]
    simp only [hlength]

theorem Accounted.sound_compact (h : p.Accounted v name) (hidle : p.grants = []) :
    p.compact.1.Sound v name := by
  have hheld := h.not_allocated_of_idle hidle
  have hrefit : Refit v name p.slots
      ((p.slots.take p.target).map (Slot.withStatus .available)) :=
    Refit.of_take p.target (Slot.withStatus .available)
      (fun s hs => Slot.kept_withStatus s .available (hheld s hs) (by simp)) hheld
  have htotal := h.total_eq
  have hfree := h.free_eq
  rw [hidle] at htotal hfree
  simp only [List.length_nil, Pool.total] at htotal hfree
  have hevery : ∀ s ∈ (p.slots.take p.target).map (Slot.withStatus .available),
      s.status = .available := by
    intro s hs
    obtain ⟨t, -, rfl⟩ := List.mem_map.mp hs
    rfl
  have hall : availableCount ((p.slots.take p.target).map (Slot.withStatus .available)) =
      p.target := by
    have havailable : ∀ s ∈ (p.slots.take p.target).map (Slot.withStatus .available),
        s.isAvailable = true := by
      intro s hs
      rw [Slot.isAvailable, hevery s hs]
      rfl
    rw [availableCount, List.countP_eq_length.mpr havailable, List.length_map, List.length_take]
    omega
  rw [h.compact_eq hidle]
  refine ⟨⟨hall.symm, ?_, h.target_pos, h.known_nodup, h.indices_nodup, ?_, ?_⟩, ?_⟩
  · simp [hidle]
  · exact fun i => (h.held_iff i).trans (hrefit.allocated_iff i).symm
  · exact fun i s hs => hrefit.fits h.fits i s hs
  · intro _
    apply List.countP_eq_zero.mpr
    intro s hs
    simp [Slot.isRetired, hevery s hs]

theorem Accounted.sound_tidy (h : p.Accounted v name) : p.tidy.Sound v name := by
  unfold tidy
  by_cases hempty : p.grants.isEmpty = true
  · rw [if_pos hempty]
    exact h.sound_compact (List.isEmpty_iff.mp hempty)
  · rw [if_neg hempty]
    exact ⟨h, fun hidle => absurd (List.isEmpty_iff.mpr hidle) hempty⟩

theorem compact_grants (p : Pool) : p.compact.1.grants = p.grants := by
  unfold compact
  split <;> rfl

theorem compact_queue (p : Pool) : p.compact.1.queue = p.queue := by
  unfold compact
  split <;> rfl

theorem compact_target (p : Pool) : p.compact.1.target = p.target := by
  unfold compact
  split <;> rfl

theorem tidy_grants (p : Pool) : p.tidy.grants = p.grants := by
  unfold tidy
  split
  · exact p.compact_grants
  · rfl

theorem tidy_queue (p : Pool) : p.tidy.queue = p.queue := by
  unfold tidy
  split
  · exact p.compact_queue
  · rfl

theorem tidy_target (p : Pool) : p.tidy.target = p.target := by
  unfold tidy
  split
  · exact p.compact_target
  · rfl

/-- Cutting touches no slot while anything is held. -/
theorem tidy_of_grant {r : String} {i : Nat} (hgrant : p.grants.get? r = some i) :
    p.tidy = p := by
  have hne : p.grants ≠ [] := by
    intro hnil
    rw [hnil] at hgrant
    simp at hgrant
  rw [tidy, if_neg (by simpa using hne)]

end LeasePool.Pool
