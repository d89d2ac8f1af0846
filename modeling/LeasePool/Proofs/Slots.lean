import LeasePool.Pool.Resize
import Mathlib.Data.List.Forall2
import Mathlib.Data.List.Perm.Basic

/-!
Slot arrays under retirement and return to service. Slots are counted by status, and the count of
the allocated ones is that of any list of their positions. Taking slots out of service and bringing
them back changes the status of slots that nobody holds and nothing else, and changes exactly as
many as it reports.
-/
namespace LeasePool

/-! ### Counting -/

/-- The number of allocated slots. -/
def allocatedCount (slots : List Slot) : Nat := slots.countP fun s => s.status == .allocated

theorem count_statuses (slots : List Slot) :
    availableCount slots + allocatedCount slots + retiredCount slots = slots.length := by
  induction slots with
  | nil => rfl
  | cons s rest ih =>
    simp only [availableCount, allocatedCount, retiredCount, List.countP_cons,
      List.length_cons] at ih ⊢
    cases hs : s.status <;> simp [Slot.isAvailable, Slot.isRetired, hs] <;> omega

/-- Changing one entry changes a count by what the entry counts before and after. -/
theorem countP_modify {α : Type} (q : α → Bool) (f : α → α) (entries : List α) (i : Nat) (a : α)
    (h : entries[i]? = some a) :
    (entries.modify i f).countP q + (if q a then 1 else 0) =
      entries.countP q + if q (f a) then 1 else 0 := by
  induction entries generalizing i with
  | nil => simp at h
  | cons b rest ih =>
    cases i with
    | zero =>
      simp only [List.getElem?_cons_zero, Option.some.injEq] at h
      subst b
      simp only [List.modify_zero_cons, List.countP_cons]
      omega
    | succ i =>
      have hrest := ih i (by simpa using h)
      simp only [List.modify_succ_cons, List.countP_cons]
      omega

/-- The positions of the allocated slots, in order. -/
def allocatedIndices (slots : List Slot) : List Nat :=
  (slots.zipIdx.filter fun e => e.1.status == .allocated).map Prod.snd

theorem mem_allocatedIndices (slots : List Slot) (i : Nat) :
    i ∈ allocatedIndices slots ↔ ∃ s, slots[i]? = some s ∧ s.status = .allocated := by
  simp [allocatedIndices, List.mem_zipIdx_iff_getElem?]

theorem nodup_allocatedIndices (slots : List Slot) : (allocatedIndices slots).Nodup := by
  have hsub : List.Sublist (allocatedIndices slots) (slots.zipIdx.map Prod.snd) :=
    List.filter_sublist.map Prod.snd
  apply hsub.nodup
  rw [List.zipIdx_map_snd]
  exact List.nodup_range'

theorem length_allocatedIndices (slots : List Slot) :
    (allocatedIndices slots).length = allocatedCount slots := by
  have hfst : (slots.zipIdx.map Prod.fst).countP (fun s => s.status == .allocated) =
      allocatedCount slots := by
    rw [List.zipIdx_map_fst]
    rfl
  rw [List.countP_map] at hfst
  rw [allocatedIndices, List.length_map, ← List.countP_eq_length_filter]
  exact hfst

/-- A duplicate-free list of the allocated positions has as many entries as there are allocated
slots. -/
theorem allocatedCount_eq_length (slots : List Slot) (held : List Nat) (hnodup : held.Nodup)
    (hheld : ∀ i, i ∈ held ↔ ∃ s, slots[i]? = some s ∧ s.status = .allocated) :
    allocatedCount slots = held.length := by
  have hperm : (allocatedIndices slots).Perm held :=
    (List.perm_ext_iff_of_nodup (nodup_allocatedIndices slots) hnodup).mpr fun i =>
      (mem_allocatedIndices slots i).trans (hheld i).symm
  rw [← length_allocatedIndices]
  exact hperm.length_eq

/-! ### Slots that keep their resource and their holder -/

namespace Slot

/-- `t` has the resource of `s` and is held exactly if `s` is. -/
def Kept (s t : Slot) : Prop :=
  t.resource = s.resource ∧ (t.status = .allocated ↔ s.status = .allocated)

theorem Kept.refl (s : Slot) : s.Kept s := ⟨rfl, Iff.rfl⟩

theorem Kept.trans {s t u : Slot} (hst : s.Kept t) (htu : t.Kept u) : s.Kept u :=
  ⟨htu.1.trans hst.1, htu.2.trans hst.2⟩

theorem Kept.eq_of_allocated {s t : Slot} (h : s.Kept t) (hs : s.status = .allocated) : t = s := by
  obtain ⟨hresource, hstatus⟩ := h
  cases t with
  | mk resource status =>
    cases s with
    | mk resource' status' =>
      simp only at hresource hstatus hs
      rw [hresource, hstatus.mpr hs, hs]

theorem forall₂_kept_trans {slots slots' slots'' : List Slot}
    (h : List.Forall₂ Kept slots slots') (h' : List.Forall₂ Kept slots' slots'') :
    List.Forall₂ Kept slots slots'' := by
  induction h generalizing slots'' with
  | nil => exact h'
  | cons hst _ ih =>
    cases h' with
    | cons htu hrest => exact .cons (hst.trans htu) (ih hrest)

theorem kept_withStatus (s : Slot) (status : SlotStatus) (hs : s.status ≠ .allocated)
    (hstatus : status ≠ .allocated) : s.Kept (s.withStatus status) :=
  ⟨rfl, by simp [withStatus, hs, hstatus]⟩

end Slot

/-! ### Retiring and reactivating -/

theorem forall₂_kept_retireFirst (p : Resource → Bool) (n : Nat) (slots : List Slot) :
    List.Forall₂ Slot.Kept slots (retireFirst p n slots).1 := by
  fun_induction retireFirst p n slots with
  | case1 => exact .nil
  | case2 slots => exact List.forall₂_same.mpr fun s _ => Slot.Kept.refl s
  | case3 n slot rest h rest' retired hrest ih =>
    rw [hrest] at ih
    have hslot : slot.status = .available := by
      simpa [Slot.isAvailable] using (Bool.and_eq_true_iff.mp h).1
    exact .cons (Slot.kept_withStatus slot .retired (by simp [hslot]) (by simp)) ih
  | case4 n slot rest h rest' retired hrest ih =>
    rw [hrest] at ih
    exact .cons (Slot.Kept.refl slot) ih

/-- Retiring takes as many slots as it may, up to the number that qualify. -/
theorem retireFirst_snd (p : Resource → Bool) (n : Nat) (slots : List Slot) :
    (retireFirst p n slots).2 = min n (slots.countP fun s => s.isAvailable && p s.resource) := by
  fun_induction retireFirst p n slots with
  | case1 => simp
  | case2 => simp
  | case3 n slot rest h rest' retired hrest ih =>
    rw [hrest] at ih
    simp only [List.countP_cons, h, if_true] at ih ⊢
    omega
  | case4 n slot rest h rest' retired hrest ih =>
    rw [hrest] at ih
    simpa [List.countP_cons, h] using ih

theorem availableCount_retireFirst (p : Resource → Bool) (n : Nat) (slots : List Slot) :
    availableCount (retireFirst p n slots).1 + (retireFirst p n slots).2 =
      availableCount slots := by
  fun_induction retireFirst p n slots with
  | case1 => rfl
  | case2 => rfl
  | case3 n slot rest h rest' retired hrest ih =>
    rw [hrest] at ih
    have hslot : slot.isAvailable = true := (Bool.and_eq_true_iff.mp h).1
    have hgone : (slot.withStatus .retired).isAvailable = false := rfl
    simp only [availableCount, List.countP_cons, hslot, hgone, if_true] at ih ⊢
    simp only [Bool.false_eq_true, if_false]
    omega
  | case4 n slot rest h rest' retired hrest ih =>
    rw [hrest] at ih
    simp only [availableCount, List.countP_cons] at ih ⊢
    omega

theorem forall₂_kept_retireLast (p : Resource → Bool) (slots : List Slot) (count : Nat) :
    List.Forall₂ Slot.Kept slots (retireLast p slots count).1 := by
  have h := forall₂_kept_retireFirst p count slots.reverse
  rw [← List.forall₂_reverse_iff, List.reverse_reverse] at h
  exact h

theorem retireLast_snd (p : Resource → Bool) (slots : List Slot) (count : Nat) :
    (retireLast p slots count).2 =
      min count (slots.countP fun s => s.isAvailable && p s.resource) := by
  have h := retireFirst_snd p count slots.reverse
  rw [List.countP_reverse] at h
  exact h

theorem availableCount_retireLast (p : Resource → Bool) (slots : List Slot) (count : Nat) :
    availableCount (retireLast p slots count).1 + (retireLast p slots count).2 =
      availableCount slots := by
  have h := availableCount_retireFirst p count slots.reverse
  simp only [availableCount, List.countP_reverse] at h
  simpa only [retireLast, availableCount, List.countP_reverse] using h

theorem forall₂_kept_reactivate (n : Nat) (slots : List Slot) :
    List.Forall₂ Slot.Kept slots (reactivate n slots).1 := by
  fun_induction reactivate n slots with
  | case1 => exact .nil
  | case2 slots => exact List.forall₂_same.mpr fun s _ => Slot.Kept.refl s
  | case3 n slot rest h rest' back hrest ih =>
    rw [hrest] at ih
    have hslot : slot.status = .retired := by simpa [Slot.isRetired] using h
    exact .cons (Slot.kept_withStatus slot .available (by simp [hslot]) (by simp)) ih
  | case4 n slot rest h rest' back hrest ih =>
    rw [hrest] at ih
    exact .cons (Slot.Kept.refl slot) ih

theorem availableCount_reactivate (n : Nat) (slots : List Slot) :
    availableCount (reactivate n slots).1 = availableCount slots + (reactivate n slots).2 := by
  fun_induction reactivate n slots with
  | case1 => rfl
  | case2 => rfl
  | case3 n slot rest h rest' back hrest ih =>
    rw [hrest] at ih
    have hslot : slot.isAvailable = false := by
      have hstatus : slot.status = .retired := by simpa [Slot.isRetired] using h
      simp [Slot.isAvailable, hstatus]
    have hback : (slot.withStatus .available).isAvailable = true := rfl
    simp only [availableCount, List.countP_cons, hslot, hback, if_true] at ih ⊢
    simp only [Bool.false_eq_true, if_false]
    omega
  | case4 n slot rest h rest' back hrest ih =>
    rw [hrest] at ih
    simp only [availableCount, List.countP_cons] at ih ⊢
    omega

theorem reactivate_snd (n : Nat) (slots : List Slot) :
    (reactivate n slots).2 = min n (retiredCount slots) := by
  fun_induction reactivate n slots with
  | case1 => simp [retiredCount]
  | case2 => simp
  | case3 n slot rest h rest' back hrest ih =>
    rw [hrest] at ih
    simp only [retiredCount, List.countP_cons, h, if_true] at ih ⊢
    omega
  | case4 n slot rest h rest' back hrest ih =>
    rw [hrest] at ih
    simpa [retiredCount, List.countP_cons, h] using ih

/-- What is not brought back stays retired. -/
theorem retiredCount_reactivate (n : Nat) (slots : List Slot) :
    retiredCount (reactivate n slots).1 + (reactivate n slots).2 = retiredCount slots := by
  fun_induction reactivate n slots with
  | case1 => rfl
  | case2 => rfl
  | case3 n slot rest h rest' back hrest ih =>
    rw [hrest] at ih
    have hback : (slot.withStatus .available).isRetired = false := rfl
    simp only [retiredCount, List.countP_cons, h, hback, if_true] at ih ⊢
    simp only [Bool.false_eq_true, if_false]
    omega
  | case4 n slot rest h rest' back hrest ih =>
    rw [hrest] at ih
    simp only [retiredCount, List.countP_cons] at ih ⊢
    omega

end LeasePool
