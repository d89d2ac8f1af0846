import LeasePool.Proofs.Slots
import Mathlib.Data.Finset.Card

/-!
Slots by their positions. Retiring and bringing back are changes of the status at some positions:
the last available ones that qualify, and the first retired ones. The position of the slot that is
granted next is the first of the available ones, and granting it leaves the others.
-/
namespace LeasePool

/-! ### Positions -/

theorem findIdxs_reverse {α : Type} (q : α → Bool) (l : List α) :
    l.reverse.findIdxs q = (l.findIdxs q).reverse.map fun i => l.length - 1 - i := by
  induction l with
  | nil => rfl
  | cons a rest ih =>
    have hshift : (rest.findIdxs q 1).reverse.map (fun i => (a :: rest).length - 1 - i) =
        (rest.findIdxs q).reverse.map fun i => rest.length - 1 - i := by
      rw [List.findIdxs_start, ← List.map_reverse, List.map_map]
      refine List.map_congr_left fun i _ => ?_
      simp only [Function.comp_apply, List.length_cons]
      omega
    have hcons : (a :: rest).findIdxs q =
        if q a then 0 :: rest.findIdxs q 1 else rest.findIdxs q 1 := List.findIdxs_cons
    rw [List.reverse_cons, List.findIdxs_append, ih, hcons]
    cases hq : q a with
    | true =>
      rw [if_pos rfl, List.reverse_cons, List.map_append, hshift]
      simp [hq]
    | false =>
      rw [if_neg Bool.false_ne_true, hshift]
      simp [hq]

/-- What satisfies a test first comes first among the positions, and comes off them when it is
changed to something that fails the test. -/
theorem findIdxs_of_findIdx? {α : Type} {q : α → Bool} {f : α → α} (hf : ∀ a, q (f a) = false)
    {l : List α} {i : Nat} (h : l.findIdx? q = some i) (start : Nat) :
    l.findIdxs q start = (i + start) :: (l.modify i f).findIdxs q start := by
  induction l generalizing i start with
  | nil => cases h
  | cons a rest ih =>
    rw [List.findIdx?_cons] at h
    cases hq : q a with
    | true =>
      simp only [hq, if_true, Option.some.injEq] at h
      subst h
      simp [List.findIdxs_cons, hq, hf]
    | false =>
      simp only [hq, Bool.false_eq_true, if_false, Option.map_eq_some_iff] at h
      obtain ⟨j, hj, rfl⟩ := h
      rw [List.modify_succ_cons, List.findIdxs_cons, List.findIdxs_cons, hq, ih hj (start + 1)]
      simp only [Bool.false_eq_true, if_false]
      rw [Nat.add_right_comm, Nat.add_assoc]

theorem mem_findIdxs {q : Slot → Bool} {slots : List Slot} {i : Nat} :
    i ∈ slots.findIdxs q ↔ ∃ s, slots[i]? = some s ∧ q s = true := by
  rw [List.mem_findIdxs_iff_exists_getElem_pos]
  simp only [List.getElem?_eq_some_iff]
  constructor
  · rintro ⟨hi, hq⟩
    exact ⟨slots[i], ⟨hi, rfl⟩, hq⟩
  · rintro ⟨s, ⟨hi, rfl⟩, hq⟩
    exact ⟨hi, hq⟩

/-! ### Changes at some positions -/

/-- The slots after a change of those at some positions. -/
def changeAt (places : List Nat) (f : Slot → Slot) (slots : List Slot) : List Slot :=
  slots.mapIdx fun i s => if i ∈ places then f s else s

variable {places : List Nat} {f : Slot → Slot} {slots : List Slot}

theorem changeAt_getElem? (places : List Nat) (f : Slot → Slot) (slots : List Slot) (i : Nat) :
    (changeAt places f slots)[i]? = if i ∈ places then slots[i]?.map f else slots[i]? := by
  rw [changeAt, List.getElem?_mapIdx]
  by_cases hi : i ∈ places
  · simp only [if_pos hi]
  · simp only [if_neg hi, Option.map_id']

theorem length_changeAt (places : List Nat) (f : Slot → Slot) (slots : List Slot) :
    (changeAt places f slots).length = slots.length := List.length_mapIdx

theorem changeAt_nil (f : Slot → Slot) (slots : List Slot) : changeAt [] f slots = slots := by
  apply List.ext_getElem?
  intro i
  rw [changeAt_getElem?, if_neg List.not_mem_nil]

/-- A change at some positions and then at others is a change at all of them. -/
theorem changeAt_append {places more : List Nat} (hdisjoint : places.Disjoint more)
    (f : Slot → Slot) (slots : List Slot) :
    changeAt (places ++ more) f slots = changeAt more f (changeAt places f slots) := by
  apply List.ext_getElem?
  intro i
  simp only [changeAt_getElem?, List.mem_append]
  by_cases hi : i ∈ places
  · have hmore : i ∉ more := fun h => hdisjoint hi h
    simp [hi, hmore]
  · simp [hi]

theorem changeAt_zero_cons (places : List Nat) (f : Slot → Slot) (s : Slot) (rest : List Slot) :
    changeAt (0 :: places.map (· + 1)) f (s :: rest) = f s :: changeAt places f rest := by
  simp [changeAt, List.mapIdx_cons]

theorem changeAt_succ_cons (places : List Nat) (f : Slot → Slot) (s : Slot) (rest : List Slot) :
    changeAt (places.map (· + 1)) f (s :: rest) = s :: changeAt places f rest := by
  simp [changeAt, List.mapIdx_cons]

theorem reverse_changeAt (f : Slot → Slot) (hplaces : ∀ i ∈ places, i < slots.length) :
    (changeAt places f slots).reverse =
      changeAt (places.map fun i => slots.length - 1 - i) f slots.reverse := by
  apply List.ext_getElem?
  intro i
  rw [changeAt_getElem?]
  by_cases hi : i < slots.length
  · have hmem : i ∈ places.map (fun i => slots.length - 1 - i) ↔ slots.length - 1 - i ∈ places := by
      rw [List.mem_map]
      constructor
      · rintro ⟨j, hj, rfl⟩
        have hlt := hplaces j hj
        rwa [show slots.length - 1 - (slots.length - 1 - j) = j by omega]
      · exact fun hplace => ⟨_, hplace, by omega⟩
    rw [List.getElem?_reverse (by rwa [length_changeAt]), List.getElem?_reverse hi,
      changeAt_getElem?, length_changeAt]
    simp only [hmem]
  · rw [List.getElem?_eq_none (by simpa [length_changeAt] using hi),
      List.getElem?_eq_none (by simpa using hi)]
    simp

/-! ### Retiring and bringing back -/

theorem retireFirst_fst (p : Resource → Bool) (n : Nat) (slots : List Slot) :
    (retireFirst p n slots).1 =
      changeAt ((slots.findIdxs fun s => s.isAvailable && p s.resource).take n)
        (Slot.withStatus .retired) slots := by
  fun_induction retireFirst p n slots with
  | case1 => rfl
  | case2 slots => rw [List.take_zero, changeAt_nil]
  | case3 n slot rest h rest' retired hrest ih =>
    rw [hrest] at ih
    rw [List.findIdxs_cons, if_pos h, List.findIdxs_start, List.take_succ_cons, ← List.map_take,
      changeAt_zero_cons, ← ih]
  | case4 n slot rest h rest' retired hrest ih =>
    rw [hrest] at ih
    rw [List.findIdxs_cons, if_neg h, List.findIdxs_start, ← List.map_take, changeAt_succ_cons,
      ← ih]

/-- Retiring takes the last slots that qualify. -/
theorem retireLast_fst (p : Resource → Bool) (slots : List Slot) (n : Nat) :
    (retireLast p slots n).1 =
      changeAt ((slots.findIdxs fun s => s.isAvailable && p s.resource).reverse.take n)
        (Slot.withStatus .retired) slots := by
  set q : Slot → Bool := fun s => s.isAvailable && p s.resource
  have hlt (others : List Slot) : ∀ i ∈ others.findIdxs q, i < others.length :=
    fun i hi => (List.mem_findIdxs_iff_exists_getElem_pos.mp hi).1
  have hplaces : ((slots.reverse.findIdxs q).take n).map (fun i => slots.reverse.length - 1 - i) =
      (slots.findIdxs q).reverse.take n := by
    rw [findIdxs_reverse, ← List.map_take, List.map_map, List.length_reverse]
    rw [List.map_congr_left (g := id) fun i hi => ?_, List.map_id]
    have hi' := hlt slots i (List.mem_reverse.mp (List.mem_of_mem_take hi))
    simp only [Function.comp_apply, id]
    omega
  calc (retireLast p slots n).1
      = (retireFirst p n slots.reverse).1.reverse := rfl
    _ = changeAt (((slots.reverse.findIdxs q).take n).map fun i => slots.reverse.length - 1 - i)
          (Slot.withStatus .retired) slots.reverse.reverse := by
        rw [retireFirst_fst]
        exact reverse_changeAt _ fun i hi => hlt _ i (List.mem_of_mem_take hi)
    _ = changeAt ((slots.findIdxs q).reverse.take n) (Slot.withStatus .retired) slots := by
        rw [hplaces, List.reverse_reverse]

/-- Bringing back takes the first slots that are retired. -/
theorem reactivate_fst (n : Nat) (slots : List Slot) :
    (reactivate n slots).1 =
      changeAt ((slots.findIdxs Slot.isRetired).take n) (Slot.withStatus .available) slots := by
  fun_induction reactivate n slots with
  | case1 => rfl
  | case2 slots => rw [List.take_zero, changeAt_nil]
  | case3 n slot rest h rest' back hrest ih =>
    rw [hrest] at ih
    rw [List.findIdxs_cons, if_pos h, List.findIdxs_start, List.take_succ_cons, ← List.map_take,
      changeAt_zero_cons, ← ih]
  | case4 n slot rest h rest' back hrest ih =>
    rw [hrest] at ih
    rw [List.findIdxs_cons, if_neg h, List.findIdxs_start, ← List.map_take, changeAt_succ_cons,
      ← ih]

end LeasePool
