import LeasePool.Proofs.Accounting

/-!
Granting one slot. A grant goes to the first available slot and keeps the accounts balanced; taking
it back at once restores the pool exactly.
-/
namespace LeasePool.Pool

variable {v : Provisioner} {name : PoolName} {p : Pool}

/-- The slot at an index is the first available one. -/
def IsFirst (p : Pool) (index : Nat) (s : Slot) : Prop :=
  p.slots.findIdx? Slot.isAvailable = some index ∧ p.slots[index]? = some s

/-- The pool after a requester was given the slot at an index. -/
def grant (p : Pool) (now : Timestamp) (index : Nat) (requester : String) : Pool :=
  { p with
    slots := p.slots.modify index (Slot.allocate now)
    free := p.free - 1
    grants := p.grants ++ [(requester, index)] }

theorem IsFirst.status_eq {index : Nat} {s : Slot} (h : p.IsFirst index s) :
    s.status = .available := by
  obtain ⟨hi, havailable, -⟩ := List.findIdx?_eq_some_iff_getElem.mp h.1
  have hs : p.slots[index] = s := by
    have hget := h.2
    rwa [List.getElem?_eq_getElem hi, Option.some.injEq] at hget
  rw [hs] at havailable
  simpa [Slot.isAvailable] using havailable

theorem IsFirst.unique {index index' : Nat} {s s' : Slot} (h : p.IsFirst index s)
    (h' : p.IsFirst index' s') : index = index' ∧ s = s' := by
  have hindex : index = index' := Option.some.inj (h.1.symm.trans h'.1)
  subst hindex
  exact ⟨rfl, Option.some.inj (h.2.symm.trans h'.2)⟩

theorem Accounted.exists_isFirst (h : p.Accounted v name) (hfree : 0 < p.free) :
    ∃ index s, p.IsFirst index s := by
  rw [h.counted] at hfree
  obtain ⟨t, ht, havailable⟩ := List.countP_pos_iff.mp hfree
  cases hfirst : p.slots.findIdx? Slot.isAvailable with
  | none =>
    have hnone := List.findIdx?_eq_none_iff.mp hfirst t ht
    rw [havailable] at hnone
    exact Bool.noConfusion hnone
  | some index =>
    obtain ⟨hi, -⟩ := List.findIdx?_eq_some_iff_getElem.mp hfirst
    exact ⟨index, p.slots[index], hfirst, List.getElem?_eq_getElem hi⟩

theorem allocate_of_isFirst {index : Nat} {s : Slot} {r : String} (now : Timestamp)
    (hfree : 0 < p.free) (hfirst : p.IsFirst index s) (hnew : p.grants.get? r = none) :
    p.allocate now r = (p.grant now index r, some (s.allocate now).resource, []) := by
  have hresource : (p.slots.modify index (Slot.allocate now))[index]?.map Slot.resource =
      some (s.allocate now).resource := by
    rw [List.getElem?_modify_eq, hfirst.2]
    rfl
  unfold allocate
  rw [if_neg (by omega), hfirst.1]
  simp only [hresource, Assoc.put_of_get?_eq_none index hnew]
  rfl

theorem allocate_of_free_eq_zero (now : Timestamp) (r : String) (hfree : p.free = 0) :
    p.allocate now r = (p, none, []) := by
  rw [allocate, if_pos hfree]

theorem grant_getElem?_of_ne (p : Pool) (now : Timestamp) (r : String) {index j : Nat}
    (hne : index ≠ j) : (p.grant now index r).slots[j]? = p.slots[j]? := by
  rw [grant, List.getElem?_modify_ne _ _ hne]

theorem grant_getElem?_self (now : Timestamp) (r : String) {index : Nat} {s : Slot}
    (hs : p.slots[index]? = some s) :
    (p.grant now index r).slots[index]? = some (s.allocate now) := by
  rw [grant, List.getElem?_modify_eq, hs]
  rfl

/-- A slot that is handed out keeps its resource but for the stamp. -/
theorem fits_allocate {index : Nat} {s : Slot} (now : Timestamp) (h : s.Fits v name index) :
    (s.allocate now).Fits v name index :=
  ⟨h.1, by simp [Slot.allocate]⟩

theorem Accounted.grant {index : Nat} {s : Slot} {r : String} (h : p.Accounted v name)
    (now : Timestamp) (hfree : 0 < p.free) (hfirst : p.IsFirst index s) (hnew : ¬ p.Knows r) :
    (p.grant now index r).Accounted v name := by
  have hstatus := hfirst.status_eq
  have hindex : index ∉ p.grants.map Prod.snd := by
    intro hmem
    obtain ⟨t, ht, hallocated⟩ := (h.held_iff index).mp hmem
    rw [hfirst.2, Option.some.injEq] at ht
    rw [← ht, hstatus] at hallocated
    exact SlotStatus.noConfusion hallocated
  constructor
  · have hcount := countP_modify Slot.isAvailable (Slot.allocate now) p.slots index s hfirst.2
    have hbefore : s.isAvailable = true := by simp [Slot.isAvailable, hstatus]
    have hafter : (s.allocate now).isAvailable = false := rfl
    rw [hbefore, hafter] at hcount
    have hcounted := h.counted
    simp only [availableCount, Pool.grant] at hcounted ⊢
    simp only [if_true, Bool.false_eq_true, if_false] at hcount
    omega
  · have hbalance := h.free_eq
    simp only [Pool.grant, List.length_append, List.length_singleton]
    omega
  · exact h.target_pos
  · have hkeys : (p.grants ++ [(r, index)]).keys ++ p.queue.map Pending.requester =
        p.grants.keys ++ r :: p.queue.map Pending.requester := by simp [Assoc.keys]
    simp only [Pool.grant]
    rw [hkeys, List.nodup_middle, List.nodup_cons]
    exact ⟨hnew, h.known_nodup⟩
  · simp only [Pool.grant, List.map_append, List.map_cons, List.map_nil]
    exact h.indices_nodup.append (List.nodup_singleton index) (by simpa using hindex)
  · intro j
    simp only [Pool.grant, List.map_append, List.map_cons, List.map_nil, List.mem_append,
      List.mem_singleton]
    by_cases hj : j = index
    · subst j
      rw [List.getElem?_modify_eq, hfirst.2]
      exact ⟨fun _ => ⟨s.allocate now, rfl, rfl⟩, fun _ => Or.inr rfl⟩
    · rw [List.getElem?_modify_ne _ _ (Ne.symm hj), ← h.held_iff j]
      simp [hj]
  · intro j t ht
    by_cases hj : index = j
    · subst j
      rw [grant_getElem?_self now r hfirst.2, Option.some.injEq] at ht
      rw [← ht]
      exact fits_allocate now (h.fits index s hfirst.2)
    · rw [grant_getElem?_of_ne p now r hj] at ht
      exact h.fits j t ht

theorem Sound.grant {index : Nat} {s : Slot} {r : String} (h : p.Sound v name)
    (now : Timestamp) (hfree : 0 < p.free) (hfirst : p.IsFirst index s) (hnew : ¬ p.Knows r) :
    (p.grant now index r).Sound v name :=
  ⟨h.toAccounted.grant now hfree hfirst hnew, by simp [Pool.grant]⟩

/-- Taking back a grant that was just made restores the pool. -/
theorem rollback_grant {index : Nat} {s : Slot} {r : String} (h : p.Accounted v name)
    (now : Timestamp) (hfree : 0 < p.free) (hfirst : p.IsFirst index s)
    (hnew : p.grants.get? r = none) : (p.grant now index r).rollback index r = p := by
  have hstatus := hfirst.status_eq
  have hgrants : Assoc.get? r (p.grants ++ [(r, index)]) = some index := by
    rw [← Assoc.put_of_get?_eq_none index hnew, Assoc.get?_put, if_pos rfl]
  have herase : Assoc.erase r (p.grants ++ [(r, index)]) = p.grants := by
    have hold := Assoc.erase_of_get?_eq_none hnew
    unfold Assoc.erase at hold ⊢
    rw [List.filter_append, hold]
    simp
  have hlt : index < p.slots.length := (List.getElem?_eq_some_iff.mp hfirst.2).1
  have hslots : (p.slots.modify index (Slot.allocate now)).modify index
      (Slot.giveBack .available) = p.slots := by
    rw [List.modify_modify_eq]
    apply List.ext_getElem?
    intro j
    by_cases hj : index = j
    · subst j
      have hstamp : s.resource.acquiredAt = none := by
        have hfits := (h.fits index s hfirst.2).2
        rw [hstatus] at hfits
        simpa using hfits
      have hback : Slot.giveBack .available (s.allocate now) = s := by
        cases s with
        | mk resource status =>
          simp only at hstamp hstatus
          simp [Slot.giveBack, Slot.allocate, ← hstamp, hstatus]
      rw [List.getElem?_modify_eq, hfirst.2]
      exact congrArg some hback
    · rw [List.getElem?_modify_ne _ _ hj]
  have hcount : p.free - 1 + 1 = p.free := by omega
  unfold rollback
  rw [if_neg (by simp [grantOf?, Pool.grant, hgrants])]
  simp only [Pool.grant, List.length_modify, hlt, if_true, herase, hslots, hcount]

end LeasePool.Pool
