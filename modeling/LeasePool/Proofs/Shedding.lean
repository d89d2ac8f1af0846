import LeasePool.Proofs.Positions
import LeasePool.Proofs.Refit
import Mathlib.Data.List.Sort
import Mathlib.Data.Set.Card

/-!
Which slots go out of service. While slots are held, shrinking retires available slots in a fixed
order: those whose resource the provisioner prefers to give up go first, and of two that are alike
in this the one further back. That holds of any slots, whether or not a pool can ever have them; the
custom provisioner passes over them twice for it, the second time for what the first pass has left.
-/
namespace LeasePool

namespace Provisioner

/-! ### The order -/

/-- Whether a provisioner takes a resource out of service before others. -/
def prefers : Provisioner → Resource → Bool
  | plain, _ => false
  | custom _ _, r => r.isExpanded

/-- Whether the slot at a position is preferred. -/
def prefersAt (v : Provisioner) (slots : List Slot) (i : Nat) : Bool :=
  slots[i]?.any fun s => v.prefers s.resource

/-- The slot at `i` goes no later than the one at `j`: preferred slots go first, and of two that are
both preferred or both not the one further back does. -/
def Ahead (v : Provisioner) (slots : List Slot) (i j : Nat) : Prop :=
  if v.prefersAt slots i = v.prefersAt slots j then j ≤ i else v.prefersAt slots i = true

instance (v : Provisioner) (slots : List Slot) : DecidableRel (v.Ahead slots) := fun i j =>
  inferInstanceAs (Decidable (if v.prefersAt slots i = v.prefersAt slots j then j ≤ i
    else v.prefersAt slots i = true))

/-- The positions of the available slots, in the order in which they go out of service. -/
def sheddingOrder (v : Provisioner) (slots : List Slot) : List Nat :=
  (slots.findIdxs Slot.isAvailable).insertionSort (v.Ahead slots)

/-- The positions of the slots that go when `count` slots are to. -/
def victims (v : Provisioner) (slots : List Slot) (count : Nat) : List Nat :=
  (v.sheddingOrder slots).take (min count (availableCount slots))

variable {v : Provisioner} {slots : List Slot} {count i j : Nat}

instance : Std.Antisymm (v.Ahead slots) where
  antisymm i j hij hji := by
    unfold Ahead at hij hji
    by_cases hsame : v.prefersAt slots i = v.prefersAt slots j
    · rw [if_pos hsame] at hij
      rw [if_pos hsame.symm] at hji
      exact Nat.le_antisymm hji hij
    · rw [if_neg hsame] at hij
      rw [if_neg (Ne.symm hsame)] at hji
      exact absurd (hij.trans hji.symm) hsame

instance : Std.Total (v.Ahead slots) where
  total i j := by
    unfold Ahead
    by_cases hsame : v.prefersAt slots i = v.prefersAt slots j
    · rw [if_pos hsame, if_pos hsame.symm]
      exact Nat.le_total j i
    · rw [if_neg hsame, if_neg (Ne.symm hsame)]
      cases hi : v.prefersAt slots i with
      | true => exact .inl rfl
      | false => exact .inr (by simpa [hi] using Ne.symm hsame)

instance : IsTrans Nat (v.Ahead slots) where
  trans i j k hij hjk := by
    unfold Ahead at hij hjk ⊢
    cases hi : v.prefersAt slots i <;> cases hj : v.prefersAt slots j <;>
      cases hk : v.prefersAt slots k <;> simp_all <;> omega

theorem sheddingOrder_perm (v : Provisioner) (slots : List Slot) :
    (v.sheddingOrder slots).Perm (slots.findIdxs Slot.isAvailable) :=
  List.perm_insertionSort _ _

theorem mem_sheddingOrder :
    i ∈ v.sheddingOrder slots ↔ ∃ s, slots[i]? = some s ∧ s.status = .available := by
  rw [(v.sheddingOrder_perm slots).mem_iff, mem_findIdxs]
  simp only [Slot.isAvailable, beq_iff_eq]

theorem nodup_sheddingOrder (v : Provisioner) (slots : List Slot) :
    (v.sheddingOrder slots).Nodup :=
  (v.sheddingOrder_perm slots).nodup_iff.mpr List.nodup_findIdxs

theorem length_sheddingOrder (v : Provisioner) (slots : List Slot) :
    (v.sheddingOrder slots).length = availableCount slots := by
  rw [(v.sheddingOrder_perm slots).length_eq, List.length_findIdxs]
  rfl

theorem victims_eq_take (v : Provisioner) (slots : List Slot) (count : Nat) :
    v.victims slots count = (v.sheddingOrder slots).take count := by
  rw [victims, ← v.length_sheddingOrder slots]
  exact List.take_eq_take_min.symm

/-! ### The order in two parts -/

/-- The positions of the available slots that are preferred, or of those that are not, from the end
on. -/
def tier (v : Provisioner) (slots : List Slot) (preferred : Bool) : List Nat :=
  (slots.findIdxs fun s => s.isAvailable && v.prefers s.resource == preferred).reverse

theorem mem_tier {preferred : Bool} : i ∈ v.tier slots preferred ↔
    i ∈ slots.findIdxs Slot.isAvailable ∧ v.prefersAt slots i = preferred := by
  rw [tier, List.mem_reverse, mem_findIdxs, mem_findIdxs, prefersAt]
  cases slots[i]? <;> simp

theorem nodup_tier (v : Provisioner) (slots : List Slot) (preferred : Bool) :
    (v.tier slots preferred).Nodup :=
  List.nodup_reverse.mpr List.nodup_findIdxs

theorem tier_disjoint (v : Provisioner) (slots : List Slot) :
    (v.tier slots true).Disjoint (v.tier slots false) := by
  intro i htrue hfalse
  have hboth := (mem_tier.mp htrue).2.symm.trans (mem_tier.mp hfalse).2
  cases hboth

theorem pairwise_ahead_tier (v : Provisioner) (slots : List Slot) (preferred : Bool) :
    (v.tier slots preferred).Pairwise (v.Ahead slots) := by
  refine List.pairwise_reverse.mpr (List.pairwise_findIdxs.imp_of_mem fun {i j} hi hj hlt => ?_)
  have hi' := (mem_tier.mp (List.mem_reverse.mpr hi)).2
  have hj' := (mem_tier.mp (List.mem_reverse.mpr hj)).2
  unfold Ahead
  rw [if_pos (hj'.trans hi'.symm)]
  exact Nat.le_of_lt hlt

/-- First the preferred slots go, then the others. -/
theorem sheddingOrder_eq (v : Provisioner) (slots : List Slot) :
    v.sheddingOrder slots = v.tier slots true ++ v.tier slots false := by
  have hsorted : (v.tier slots true ++ v.tier slots false).Pairwise (v.Ahead slots) := by
    refine List.pairwise_append.mpr
      ⟨v.pairwise_ahead_tier slots true, v.pairwise_ahead_tier slots false, fun i hi j hj => ?_⟩
    simp [Ahead, (mem_tier.mp hi).2, (mem_tier.mp hj).2]
  have hnodup : (v.tier slots true ++ v.tier slots false).Nodup :=
    (v.nodup_tier slots true).append (v.nodup_tier slots false) (v.tier_disjoint slots)
  have hperm : (v.sheddingOrder slots).Perm (v.tier slots true ++ v.tier slots false) := by
    refine (List.perm_ext_iff_of_nodup (v.nodup_sheddingOrder slots) hnodup).mpr fun i => ?_
    rw [(v.sheddingOrder_perm slots).mem_iff, List.mem_append, mem_tier, mem_tier]
    cases v.prefersAt slots i <;> simp
  exact hperm.eq_of_pairwise' (List.pairwise_insertionSort _ _) hsorted

/-! ### Shrinking -/

/-- Once the preferred slots are retired, the available ones are the others. -/
theorem findIdxs_changeAt_tier (v : Provisioner) (slots : List Slot) :
    ((changeAt (v.tier slots true) (Slot.withStatus .retired) slots).findIdxs
      Slot.isAvailable).reverse = v.tier slots false := by
  have hdown (l : List Slot) (q : Slot → Bool) : (l.findIdxs q).reverse.Pairwise (· > ·) :=
    List.pairwise_reverse.mpr List.pairwise_findIdxs
  refine (hdown _ _).eq_of_mem_iff (hdown _ _) fun i => ?_
  have hother : i ∈ v.tier slots false ↔
      i ∈ slots.findIdxs Slot.isAvailable ∧ v.prefersAt slots i = false := mem_tier
  change _ ↔ i ∈ v.tier slots false
  rw [List.mem_reverse, mem_findIdxs, changeAt_getElem?, hother, mem_findIdxs]
  by_cases hi : i ∈ v.tier slots true
  · have hgone (s : Slot) : (s.withStatus .retired).isAvailable = false := rfl
    simp [hi, hgone, (mem_tier.mp hi).2]
  · rw [if_neg hi]
    rw [mem_tier, mem_findIdxs] at hi
    refine ⟨fun h => ⟨h, ?_⟩, fun h => h.1⟩
    simpa using fun hpreferred => hi ⟨h, hpreferred⟩

/-- The second pass takes what the first one leaves over, in the order in which it would go
anyway. -/
theorem shrink_custom_fst (label : String) (overlay : Fields) (slots : List Slot) (count : Nat) :
    ((custom label overlay).shrink slots count true).1 =
      changeAt (((custom label overlay).sheddingOrder slots).take count)
        (Slot.withStatus .retired) slots := by
  set v := custom label overlay with hv
  have hflagged : (slots.findIdxs fun s => s.isAvailable && s.resource.isExpanded).reverse =
      v.tier slots true := by
    simp [tier, hv, prefers]
  have hcount : (retireLast Resource.isExpanded slots count).2 =
      min count (v.tier slots true).length := by
    rw [retireLast_snd, ← hflagged, List.length_reverse, List.length_findIdxs]
  have htwice : (v.shrink slots count true).1 =
      (retireLast (fun _ => true) (retireLast Resource.isExpanded slots count).1
        (count - (retireLast Resource.isExpanded slots count).2)).1 := rfl
  rw [htwice, retireLast_fst, retireLast_fst, hcount, hflagged, sheddingOrder_eq, List.take_append]
  simp only [Bool.and_true]
  rcases Nat.le_total count (v.tier slots true).length with hle | hle
  · rw [Nat.min_eq_left hle, Nat.sub_self, Nat.sub_eq_zero_of_le hle, List.take_zero,
      List.take_zero, List.append_nil, changeAt_nil]
  · rw [Nat.min_eq_right hle, List.take_of_length_le hle, findIdxs_changeAt_tier]
    exact (changeAt_append
      (List.disjoint_of_subset_right (List.take_subset _ _) (v.tier_disjoint slots)) _ _).symm

theorem shrink_fst (v : Provisioner) (slots : List Slot) (count : Nat) :
    (v.shrink slots count true).1 =
      changeAt (v.victims slots count) (Slot.withStatus .retired) slots := by
  rw [victims_eq_take]
  cases v with
  | plain =>
    have hnone : plain.tier slots true = [] := by simp [tier, prefers, List.findIdxs_eq_nil_iff]
    have hevery : plain.tier slots false = (slots.findIdxs Slot.isAvailable).reverse := by
      simp [tier, prefers]
    have honce : plain.shrink slots count true = retireLast (fun _ => true) slots count := rfl
    rw [honce, retireLast_fst, sheddingOrder_eq, hnone, hevery, List.nil_append]
    simp only [Bool.and_true]
  | custom label overlay => exact shrink_custom_fst label overlay slots count

/-- The result of a shrink that was to take `count` slots out of service while some are held: the
slots after it, and how many are said to have gone. -/
structure Sheds (v : Provisioner) (slots : List Slot) (count : Nat) (result : List Slot × Nat) :
    Prop where
  length_eq : result.1.length = slots.length
  resources_eq : result.1.map Slot.resource = slots.map Slot.resource
  changed_iff : ∀ i : Nat, result.1[i]? ≠ slots[i]? ↔ i ∈ v.victims slots count
  retired : ∀ i ∈ v.victims slots count, slots[i]?.map Slot.status = some .available ∧
    result.1[i]?.map Slot.status = some .retired
  reported : result.2 = {i : Nat | result.1[i]? ≠ slots[i]?}.ncard

/-- While slots are held, a shrink retires the first available slots in the order of the
provisioner, as many as it may, and changes nothing else. -/
theorem shrink_sheds (v : Provisioner) (slots : List Slot) (count : Nat) :
    v.Sheds slots count (v.shrink slots count true) := by
  have hvictim {i : Nat} (hi : i ∈ v.victims slots count) :
      ∃ s, slots[i]? = some s ∧ s.status = .available :=
    mem_sheddingOrder.mp (List.mem_of_mem_take hi)
  have hchanged (i : Nat) :
      (v.shrink slots count true).1[i]? ≠ slots[i]? ↔ i ∈ v.victims slots count := by
    rw [shrink_fst, changeAt_getElem?]
    by_cases hi : i ∈ v.victims slots count
    · obtain ⟨s, hs, hstatus⟩ := hvictim hi
      have hne : s.withStatus .retired ≠ s := fun heq => by
        rw [← heq] at hstatus
        cases hstatus
      simp [hi, hs, hne]
    · simp [hi]
  constructor
  · rw [shrink_fst, length_changeAt]
  · apply List.ext_getElem?
    intro i
    rw [shrink_fst, List.getElem?_map, List.getElem?_map, changeAt_getElem?]
    split
    · cases slots[i]? <;> rfl
    · rfl
  · exact hchanged
  · intro i hi
    obtain ⟨s, hs, hstatus⟩ := hvictim hi
    rw [shrink_fst, changeAt_getElem?, if_pos hi, hs]
    exact ⟨congrArg some hstatus, rfl⟩
  · have hset : {i : Nat | (v.shrink slots count true).1[i]? ≠ slots[i]?} =
        ((v.victims slots count).toFinset : Set Nat) := by
      ext i
      rw [Set.mem_ofPred_eq, hchanged i, Finset.mem_coe, List.mem_toFinset]
    have hnodup : (v.victims slots count).Nodup := (v.nodup_sheddingOrder slots).take
    rw [hset, Set.ncard_coe_finset, List.toFinset_card_of_nodup hnodup, shrink_snd, victims,
      List.length_take, length_sheddingOrder]
    omega

/-- Flagged slots go before the others, wherever they stand. -/
example :
    let slot (flag : Bool) (status : SlotStatus) : Slot :=
      ⟨(Resource.fresh "" 0).withField MetaKey.expanded (.bool flag), status⟩
    (custom "farm" []).victims [slot true .available, slot false .available, slot true .allocated,
      slot true .available, slot false .retired, slot false .available] 3 = [3, 0, 5] := by
  decide +kernel

end Provisioner

end LeasePool
