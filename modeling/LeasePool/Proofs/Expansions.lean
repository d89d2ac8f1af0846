import LeasePool.Proofs.Grants
import LeasePool.Proofs.Resizing
import LeasePool.Proofs.Returns
import LeasePool.Proofs.Shedding

/-!
Expanded slots. The custom provisioner flags the slots that an expansion adds and takes flagged
slots out of service first. The flagged slots of a pool are its last ones, whatever it has gone
through, so that this is the same as to begin with the last slot, as the plain provisioner does.
Two pools that differ in what their slots carry therefore go through the same statuses.
-/
namespace LeasePool

/-! ### Flags at the end -/

/-- No slot after a flagged one is without the flag. -/
def ExpandedLast (slots : List Slot) : Prop :=
  slots.Pairwise fun s t => s.resource.isExpanded = true → t.resource.isExpanded = true

namespace ExpandedLast

variable {slots slots' : List Slot}

/-- Only the flags matter. -/
theorem of_flags (h : ExpandedLast slots)
    (hflags : slots'.map (fun s => s.resource.isExpanded) =
      slots.map fun s => s.resource.isExpanded) : ExpandedLast slots' := by
  unfold ExpandedLast at h ⊢
  rw [← List.pairwise_map (f := fun s : Slot => s.resource.isExpanded)
    (R := fun a b => a = true → b = true)] at h ⊢
  rwa [hflags]

theorem of_kept (h : ExpandedLast slots) (hkept : List.Forall₂ Slot.Kept slots slots') :
    ExpandedLast slots' := by
  refine h.of_flags (List.forall₂_eq_eq_eq ▸ ?_)
  rw [List.forall₂_map_left_iff, List.forall₂_map_right_iff]
  exact (hkept.imp fun s t hst => congrArg Resource.isExpanded hst.1).flip

theorem modify (h : ExpandedLast slots) (index : Nat) {f : Slot → Slot}
    (hf : ∀ s, (f s).resource.isExpanded = s.resource.isExpanded) :
    ExpandedLast (slots.modify index f) := by
  refine h.of_flags (List.ext_getElem? fun j => ?_)
  rw [List.getElem?_map, List.getElem?_map, List.getElem?_modify]
  cases slots[j]? with
  | none => rfl
  | some s => split <;> simp [hf]

theorem take (h : ExpandedLast slots) (n : Nat) : ExpandedLast (slots.take n) :=
  List.Pairwise.sublist (List.take_sublist n slots) h

/-- Slots without the flag, and then flagged ones. -/
theorem exists_suffix (h : ExpandedLast slots) :
    ∃ first last, slots = first ++ last ∧ (∀ s ∈ first, s.resource.isExpanded = false) ∧
      ∀ s ∈ last, s.resource.isExpanded = true := by
  induction slots with
  | nil => exact ⟨[], [], rfl, by simp, by simp⟩
  | cons s rest ih =>
    obtain ⟨hhead, htail⟩ := List.pairwise_cons.mp h
    cases hs : s.resource.isExpanded with
    | true =>
      refine ⟨[], s :: rest, rfl, by simp, fun t ht => ?_⟩
      rcases List.mem_cons.mp ht with rfl | hrest
      · exact hs
      · exact hhead t hrest hs
    | false =>
      obtain ⟨first, last, rfl, hfirst, hlast⟩ := ih htail
      exact ⟨s :: first, last, rfl, List.forall_mem_cons.mpr ⟨hs, hfirst⟩, hlast⟩

end ExpandedLast

/-! ### Which slots are retired -/

/-- With the flagged slots at the end, every provisioner sheds slots from the end. -/
theorem ExpandedLast.sheddingOrder_eq {slots : List Slot} (h : ExpandedLast slots)
    (v : Provisioner) : v.sheddingOrder slots = (slots.findIdxs Slot.isAvailable).reverse := by
  have hlater {i j : Nat} (hj : j ∈ slots.findIdxs Slot.isAvailable) (hlt : i < j)
      (hprefers : v.prefersAt slots i = true) : v.prefersAt slots j = true := by
    obtain ⟨t, ht, -⟩ := mem_findIdxs.mp hj
    obtain ⟨s, hs, hflag⟩ := (Option.any_eq_true _ _).mp hprefers
    cases v with
    | plain => cases hflag
    | custom label overlay =>
      obtain ⟨hi', rfl⟩ := List.getElem?_eq_some_iff.mp hs
      obtain ⟨hj', rfl⟩ := List.getElem?_eq_some_iff.mp ht
      have hflagged := List.pairwise_iff_getElem.mp h i j hi' hj' hlt hflag
      rw [Provisioner.prefersAt, ht]
      exact hflagged
  have hsorted : (slots.findIdxs Slot.isAvailable).reverse.Pairwise (v.Ahead slots) := by
    refine List.pairwise_reverse.mpr (List.pairwise_findIdxs.imp_of_mem fun {i j} _ hj hlt => ?_)
    unfold Provisioner.Ahead
    split
    case isTrue => exact Nat.le_of_lt hlt
    case isFalse hdiffer =>
      cases hi : v.prefersAt slots i with
      | true => exact hlater hj hlt hi
      | false => simpa [hi] using hdiffer
  have hperm := (v.sheddingOrder_perm slots).trans (List.reverse_perm _).symm
  exact hperm.eq_of_pairwise' (List.pairwise_insertionSort _ _) hsorted

/-- It therefore retires the last slots first. -/
theorem ExpandedLast.shrink_eq {slots : List Slot} (h : ExpandedLast slots) (v : Provisioner)
    (count : Nat) : v.shrink slots count true = retireLast (fun _ => true) slots count := by
  have hevery : (slots.countP fun s => s.isAvailable && true) = availableCount slots := by
    simp [availableCount]
  refine Prod.ext ?_ ?_
  · rw [v.shrink_fst, Provisioner.victims_eq_take, h.sheddingOrder_eq, retireLast_fst]
    simp only [Bool.and_true]
  · rw [v.shrink_snd, retireLast_snd, hevery]

/-! ### The flags of a pool -/

/-- What lies under a key after a merge depends on what lay under that key before. -/
theorem Fields.get?_merge_congr {key : String} (overlay : Fields) {base base' : Fields}
    (h : base.get? key = base'.get? key) :
    (base.merge overlay).get? key = (base'.merge overlay).get? key := by
  induction overlay generalizing base base' with
  | nil => exact h
  | cons field rest ih =>
    have hnext : (base.insert field.1 field.2).get? key =
        (base'.insert field.1 field.2).get? key := by
      rw [Fields.get?_insert, Fields.get?_insert, h]
    exact ih hnext

namespace Provisioner

variable {v : Provisioner} {name : PoolName}

theorem not_isExpanded_plain {index : Nat} {r : Resource}
    (h : Provisioner.plain.Supplies name index r.unclaimed) : r.isExpanded = false := by
  have hmetadata : r.metadata = r.unclaimed.metadata := rfl
  obtain ⟨now, start, hr | hr⟩ := h <;>
    · rw [Resource.isExpanded, hmetadata, hr]
      rfl

theorem isExpanded_makeExpanded (label : String) (overlay : Fields) (name : PoolName)
    (now start : Timestamp) (index : Nat) :
    ((custom label overlay).makeExpanded name now start index).isExpanded = true := by
  simp [makeExpanded, Resource.isExpanded, Resource.withField, Fields.get?_insert,
    MetaKey.expanded, MetaKey.expandedAt]

/-- New slots at the end keep the flags at the end. -/
theorem expandedLast_append {slots : List Slot} (h : ExpandedLast slots)
    (hfits : ∀ (i : Nat) (s : Slot), slots[i]? = some s → s.Fits v name i) (now : Readings)
    (start count : Nat) : ExpandedLast (slots ++ v.added name now start count) := by
  cases v with
  | plain =>
    have hold : ∀ s ∈ slots, s.resource.isExpanded = false := by
      intro s hs
      obtain ⟨i, hi⟩ := List.mem_iff_getElem?.mp hs
      exact not_isExpanded_plain (hfits i s hi).1
    have hnew : ∀ s ∈ plain.added name now start count, s.resource.isExpanded = false := by
      intro s hs
      obtain ⟨k, -, rfl⟩ := List.mem_map.mp hs
      rfl
    refine List.pairwise_of_forall_mem_list fun s hs t _ hflag => ?_
    rcases List.mem_append.mp hs with hs | hs
    · rw [hold s hs] at hflag
      cases hflag
    · rw [hnew s hs] at hflag
      cases hflag
  | custom label overlay =>
    have hnew : ∀ s ∈ (custom label overlay).added name now start count,
        s.resource.isExpanded = true := by
      intro s hs
      obtain ⟨k, -, rfl⟩ := List.mem_map.mp hs
      exact isExpanded_makeExpanded label overlay name _ _ _
    exact List.pairwise_append.mpr ⟨h,
      List.pairwise_of_forall_mem_list fun _ _ t ht _ => hnew t ht, fun _ _ t ht _ => hnew t ht⟩

/-- Neither the index nor the instant of making bears on the flag. -/
theorem isExpanded_make_eq (v : Provisioner) (name : PoolName) (now later : Timestamp)
    (i j : Nat) : (v.make name now i).isExpanded = (v.make name later j).isExpanded := by
  cases v with
  | plain => rfl
  | custom label overlay =>
    have hfields : Fields.get? MetaKey.expanded [(MetaKey.poolIndex, Json.ofNat i)] =
        Fields.get? MetaKey.expanded [(MetaKey.poolIndex, Json.ofNat j)] := rfl
    have hmerged := Fields.get?_merge_congr overlay hfields
    have hstamp : MetaKey.createdAt ≠ MetaKey.expanded := by
      simp [MetaKey.expanded, MetaKey.createdAt]
    have hget : ((custom label overlay).make name now i).metadata.get? MetaKey.expanded =
        ((custom label overlay).make name later j).metadata.get? MetaKey.expanded := by
      rw [make, make, Resource.withField, Resource.withField, Fields.get?_insert,
        Fields.get?_insert, if_neg hstamp, if_neg hstamp]
      exact hmerged
    rw [Resource.isExpanded, hget, Resource.isExpanded]

/-- The slots of a new pool carry the flag all or none, as the overlay says. -/
theorem expandedLast_stock (v : Provisioner) (name : PoolName) (now : Readings) (size : Nat) :
    ExpandedLast (v.stock name now size) := by
  refine List.pairwise_of_forall_mem_list fun s hs t ht hflag => ?_
  obtain ⟨i, -, rfl⟩ := List.mem_map.mp hs
  obtain ⟨j, -, rfl⟩ := List.mem_map.mp ht
  exact (isExpanded_make_eq v name _ _ j i).trans hflag

end Provisioner

end LeasePool
