import LeasePool.Pool.Resize
import LeasePool.Proofs.Returns

/-!
The waiting list has no bearing on the slots. Granting a slot, taking a grant back, ending one and
resizing neither ask who waits nor change the list, so that each of them comes to the same whether
the list is changed before it or after it.
-/
namespace LeasePool.Pool

variable {f : List Pending → List Pending}

/-- The pool with its waiting list changed. -/
def onQueue (f : List Pending → List Pending) (p : Pool) : Pool := { p with queue := f p.queue }

@[simp] theorem onQueue_queue (p : Pool) : (p.onQueue f).queue = f p.queue := rfl

@[simp] theorem onQueue_slots (p : Pool) : (p.onQueue f).slots = p.slots := rfl

@[simp] theorem onQueue_free (p : Pool) : (p.onQueue f).free = p.free := rfl

@[simp] theorem onQueue_grants (p : Pool) : (p.onQueue f).grants = p.grants := rfl

@[simp] theorem onQueue_target (p : Pool) : (p.onQueue f).target = p.target := rfl

theorem allocate_onQueue (p : Pool) (now : Timestamp) (requester : String) :
    (p.onQueue f).allocate now requester =
      ((p.allocate now requester).1.onQueue f, (p.allocate now requester).2) := by
  simp only [allocate, onQueue_free, onQueue_slots]
  by_cases hfree : p.free = 0
  · simp only [hfree, if_true]
  · simp only [hfree, if_false]
    cases p.slots.findIdx? Slot.isAvailable with
    | none => rfl
    | some index => rfl

theorem rollback_onQueue (p : Pool) (index : Nat) (requester : String) :
    (p.onQueue f).rollback index requester = (p.rollback index requester).onQueue f := by
  have hgrant : (p.onQueue f).grantOf? requester = p.grantOf? requester := rfl
  simp only [rollback, hgrant]
  by_cases hheld : p.grantOf? requester = some index
  · by_cases hlt : index < p.slots.length
    · simp [hheld, hlt, onQueue]
    · simp [hheld, hlt, onQueue]
  · simp only [ne_eq, hheld, not_false_eq_true, if_true]

theorem compact_onQueue (p : Pool) :
    (p.onQueue f).compact = (p.compact.1.onQueue f, p.compact.2) := by
  have hretired : (p.onQueue f).retired = p.retired := rfl
  simp only [compact, onQueue_slots, onQueue_target, hretired]
  by_cases hfits : p.slots.length ≤ p.target ∧ p.retired = 0
  · simp only [hfits, and_self, if_true]
  · simp only [hfits, if_false]
    rfl

theorem tidy_onQueue (p : Pool) : (p.onQueue f).tidy = p.tidy.onQueue f := by
  simp only [tidy, onQueue_grants]
  by_cases hidle : p.grants.isEmpty = true
  · simp only [hidle, if_true, compact_onQueue]
  · simp only [hidle, Bool.false_eq_true, if_false]

theorem release_onQueue (p : Pool) (index : Nat) (requester : String) :
    (p.onQueue f).release index requester =
      ((p.release index requester).1.onQueue f, (p.release index requester).2) := by
  have hgrant : (p.onQueue f).grantOf? requester = p.grantOf? requester := rfl
  have hcompact := compact_onQueue (f := f) (p.vacate index requester)
  simp only [release, hgrant]
  by_cases hheld : p.grantOf? requester = some index
  · by_cases hlt : index < p.slots.length
    · by_cases hidle : (p.grants.erase requester).isEmpty = true
      · simp only [hheld, ne_eq, not_true_eq_false, if_false, onQueue_slots, hlt, if_true,
          onQueue_grants, hidle]
        exact congrArg (fun r : Pool × List Note => (r.1, some ((r.1.slots[index]?.map
          Slot.status).getD p.statusBack), r.2)) hcompact
      · simp only [hheld, ne_eq, not_true_eq_false, if_false, onQueue_slots, hlt, if_true,
          onQueue_grants, hidle]
        rfl
    · simp only [hheld, ne_eq, not_true_eq_false, if_false, onQueue_slots, hlt]
      rfl
  · simp only [ne_eq, hheld, not_false_eq_true, if_true]

theorem expand_onQueue (p : Pool) (name : PoolName) (strategy : Strategy) (now : Readings)
    (count : Nat) :
    (p.onQueue f).expand name strategy now count =
      ((p.expand name strategy now count).1.onQueue f, (p.expand name strategy now count).2) := by
  simp only [expand, onQueue_slots, onQueue_free]
  by_cases hmissing : count - (reactivate count p.slots).2 = 0
  · simp only [hmissing, if_true]
    rfl
  · simp only [hmissing, if_false]
    rfl

theorem resize_onQueue (p : Pool) (name : PoolName) (strategy : Strategy) (now : Readings)
    (size : Nat) :
    (p.onQueue f).resize name strategy now size =
      ((p.resize name strategy now size).1.onQueue f, (p.resize name strategy now size).2) := by
  have hservice : (p.onQueue f).inService = p.inService := rfl
  simp only [resize, hservice]
  by_cases hle : p.inService ≤ size
  · have hexpand := expand_onQueue (f := f) { p with target := size } name strategy now
      (size - p.inService)
    simp only [hle, if_true]
    exact congrArg (fun r : Pool × Nat × List Note =>
      (r.1, (⟨p.inService, size, r.2.1, 0⟩ : ResizeOutcome), r.2.2)) hexpand
  · simp only [hle, if_false]
    rfl

end LeasePool.Pool
