import LeasePool.Pool.Audit
import LeasePool.Proofs.Refit
import Mathlib.Data.List.Nodup

/-!
The accounts of a pool. The free slots number the target less the grants, so that the running count
never has to be computed from the target; with the counts of held and retired slots this gives the
sums that an audit checks. Each operation keeps the accounts balanced as long as it is used as a
coordinator uses it.
-/
namespace LeasePool.Pool

variable {v : Provisioner} {name : PoolName} {p : Pool}

/-- The requester holds or awaits a slot. -/
def Knows (p : Pool) (requester : String) : Prop :=
  requester ∈ p.grants.keys ++ p.queue.map Pending.requester

/-- The accounts balance; retired slots may be left over in an idle pool. -/
structure Accounted (v : Provisioner) (name : PoolName) (p : Pool) : Prop where
  counted : p.free = availableCount p.slots
  free_eq : p.free = p.target - p.grants.length
  target_pos : 0 < p.target
  known_nodup : (p.grants.keys ++ p.queue.map Pending.requester).Nodup
  indices_nodup : (p.grants.map Prod.snd).Nodup
  held_iff : ∀ i : Nat, i ∈ p.grants.map Prod.snd ↔
    ∃ s, p.slots[i]? = some s ∧ s.status = .allocated
  fits : ∀ (i : Nat) (s : Slot), p.slots[i]? = some s → s.Fits v name i

/-- The accounts balance, and an idle pool has no retired slots. -/
structure Sound (v : Provisioner) (name : PoolName) (p : Pool) : Prop
    extends Accounted v name p where
  idle_retired : p.grants = [] → p.retired = 0

/-! ### Sums -/

namespace Accounted

theorem keys_nodup (h : p.Accounted v name) : p.grants.keys.Nodup := h.known_nodup.of_append_left

theorem allocatedCount_eq (h : p.Accounted v name) : allocatedCount p.slots = p.grants.length := by
  rw [allocatedCount_eq_length p.slots _ h.indices_nodup h.held_iff, List.length_map]

theorem total_eq (h : p.Accounted v name) : p.free + p.grants.length + p.retired = p.total := by
  have hsum := count_statuses p.slots
  rw [← h.counted, h.allocatedCount_eq] at hsum
  exact hsum

/-- As many slots are in service as are aimed for or held, whichever is more. -/
theorem inService_eq (h : p.Accounted v name) : p.inService = max p.target p.grants.length := by
  have htotal := h.total_eq
  have hfree := h.free_eq
  unfold inService
  omega

theorem index_eq (h : p.Accounted v name) {i : Nat} {s : Slot} (hs : p.slots[i]? = some s) :
    s.resource.index = i := (h.fits i s hs).1.index_eq

theorem ids_nodup (h : p.Accounted v name) : (p.slots.map fun s => s.resource.id).Nodup := by
  rw [List.nodup_iff_getElem?_ne_getElem?]
  intro i j hij hj heq
  rw [List.length_map] at hj
  have hi : i < p.slots.length := by omega
  have hid (k : Nat) (hk : k < p.slots.length) :
      (p.slots.map fun s => s.resource.id)[k]? = some (v.idAt name k) := by
    rw [List.getElem?_map, List.getElem?_eq_getElem hk, Option.map_some]
    exact congrArg some (h.fits k _ (List.getElem?_eq_getElem hk)).1.id_eq
  rw [hid i hi, hid j hj, Option.some.injEq] at heq
  have hindex := v.idAt_injective name heq
  omega

/-- A requester's grant names an allocated slot. -/
theorem exists_slot (h : p.Accounted v name) {r : String} {i : Nat}
    (hgrant : p.grants.get? r = some i) : ∃ s, p.slots[i]? = some s ∧ s.status = .allocated :=
  (h.held_iff i).mp (List.mem_map_of_mem (Assoc.mem_of_get? hgrant))

/-- No two requesters hold the same slot. -/
theorem holder_unique (h : p.Accounted v name) {r r' : String} {i : Nat}
    (hr : p.grants.get? r = some i) (hr' : p.grants.get? r' = some i) : r = r' := by
  have heq := List.inj_on_of_nodup_map h.indices_nodup (Assoc.mem_of_get? hr)
    (Assoc.mem_of_get? hr') rfl
  exact congrArg Prod.fst heq

theorem not_allocated_of_idle (h : p.Accounted v name) (hidle : p.grants = []) :
    ∀ s ∈ p.slots, s.status ≠ .allocated := by
  intro s hs hstatus
  obtain ⟨i, hi⟩ := List.mem_iff_getElem?.mp hs
  have hmem := (h.held_iff i).mpr ⟨s, hi, hstatus⟩
  rw [hidle] at hmem
  exact List.not_mem_nil hmem

theorem not_knows_iff (p : Pool) (r : String) :
    ¬ p.Knows r ↔ p.grants.get? r = none ∧ r ∉ p.queue.map Pending.requester := by
  rw [Knows, List.mem_append, not_or, Assoc.get?_eq_none_iff]

end Accounted

theorem sound_ofSlots (v : Provisioner) (name : PoolName) (now : Readings) (size : Nat)
    (hsize : 0 < size) : (ofSlots (v.stock name now size)).Sound v name where
  counted := rfl
  free_eq := by
    simp [ofSlots, Provisioner.availableCount_stock, Provisioner.length_stock]
  target_pos := by simpa [ofSlots, Provisioner.length_stock] using hsize
  known_nodup := by simp [ofSlots, Assoc.keys]
  indices_nodup := by simp [ofSlots]
  held_iff i := by
    simp only [ofSlots, List.map_nil, List.not_mem_nil, false_iff, not_exists, not_and]
    intro s hs hstatus
    rw [(v.stock_getElem? name now size i s hs).1] at hstatus
    exact SlotStatus.noConfusion hstatus
  fits i s hs := by
    obtain ⟨hstatus, hsupplies⟩ := v.stock_getElem? name now size i s hs
    exact Slot.fits_of_supplies hstatus hsupplies
  idle_retired _ := by
    have hsum := count_statuses (v.stock name now size)
    rw [v.availableCount_stock, v.length_stock] at hsum
    simp only [retired, ofSlots]
    omega

/-! ### The waiting list -/

theorem Sound.of_queue (h : p.Sound v name) (queue : List Pending)
    (hnodup : (p.grants.keys ++ queue.map Pending.requester).Nodup) :
    ({ p with queue } : Pool).Sound v name :=
  ⟨⟨h.counted, h.free_eq, h.target_pos, hnodup, h.indices_nodup, h.held_iff, h.fits⟩,
    h.idle_retired⟩

theorem Sound.enqueue (h : p.Sound v name) {r : Pending} (hnew : ¬ p.Knows r.requester) :
    (p.enqueue r).1.Sound v name := by
  apply h.of_queue
  rw [List.map_append, List.map_singleton, ← List.append_assoc, List.nodup_append_comm,
    List.singleton_append, List.nodup_cons]
  exact ⟨hnew, h.known_nodup⟩

/-- What stays of the waiting list after a request was taken from its head. -/
theorem Sound.dequeue (h : p.Sound v name) {r : Pending} {rest : List Pending}
    (hqueue : p.queue = r :: rest) :
    ({ p with queue := rest } : Pool).Sound v name ∧
      ¬ ({ p with queue := rest } : Pool).Knows r.requester := by
  have hnodup := h.known_nodup
  rw [hqueue, List.map_cons, List.nodup_middle, List.nodup_cons] at hnodup
  exact ⟨h.of_queue rest hnodup.2, hnodup.1⟩

theorem map_requester_eraseP (queue : List Pending) (requester : String) :
    (queue.eraseP fun r => r.requester == requester).map Pending.requester =
      (queue.map Pending.requester).erase requester := by
  have hsame : (fun r : Pending => r.requester == requester) =
      (requester == ·) ∘ Pending.requester := by
    funext r
    exact Bool.beq_comm
  rw [hsame, List.erase_eq_eraseP, List.eraseP_map]

theorem Sound.withdraw (h : p.Sound v name) (requester : String) :
    (p.withdraw requester).1.Sound v name := by
  apply h.of_queue
  have hsub : List.Sublist (p.queue.eraseP fun r => r.requester == requester) p.queue :=
    List.eraseP_sublist
  exact ((hsub.map Pending.requester).append_left _).nodup h.known_nodup

/-! ### The audit -/

/-- The rules that an audit checks, apart from their order. -/
structure Consistent (p : Pool) : Prop where
  counted : availableCount p.slots = p.free
  summed : p.free + p.grantedCount + p.retired = p.total
  indices_nodup : (p.grants.map Prod.snd).Nodup
  allocated : ∀ i ∈ p.grants.map Prod.snd, p.slots[i]?.map Slot.status = some .allocated
  queue_nodup : (p.queue.map Pending.requester).Nodup
  queue_new : ∀ r ∈ p.queue.map Pending.requester, r ∉ p.grants.keys
  idle_retired : p.grants = [] → p.retired = 0
  placed : ∀ (i : Nat) (s : Slot), p.slots[i]? = some s → s.resource.index = i

/-- Consistency, and what else can be seen of a pool whose accounts balance. -/
structure Orderly (p : Pool) : Prop extends Consistent p where
  held : ∀ (i : Nat) (s : Slot), p.slots[i]? = some s → s.status = .allocated →
    i ∈ p.grants.map Prod.snd
  known_nodup : (p.grants.keys ++ p.queue.map Pending.requester).Nodup
  ids_nodup : (p.slots.map fun s => s.resource.id).Nodup
  stamped_iff : ∀ s ∈ p.slots, s.resource.acquiredAt.isSome = true ↔ s.status = .allocated

theorem badGrant?_eq_none_iff (slots : List Slot) (seen : List Nat)
    (grants : List (String × Nat)) :
    badGrant? slots seen grants = none ↔
      (grants.map Prod.snd).Nodup ∧ (∀ i ∈ grants.map Prod.snd, i ∉ seen) ∧
        ∀ i ∈ grants.map Prod.snd, slots[i]?.map Slot.status = some .allocated := by
  induction grants generalizing seen with
  | nil => simp [badGrant?]
  | cons grant rest ih =>
    obtain ⟨requester, index⟩ := grant
    by_cases hseen : index ∈ seen
    · simp [badGrant?, hseen]
    · by_cases hstatus : slots[index]?.map Slot.status = some .allocated
      · simp only [badGrant?, hseen, hstatus, if_true, if_false, ih, List.map_cons,
          List.nodup_cons, List.mem_cons, forall_eq_or_imp, not_or]
        constructor
        · rintro ⟨hnodup, hfresh, hall⟩
          exact ⟨⟨fun hmem => (hfresh index hmem).1 rfl, hnodup⟩,
            ⟨not_false, fun i hi => (hfresh i hi).2⟩, trivial, hall⟩
        · rintro ⟨⟨hindex, hnodup⟩, ⟨-, hfresh⟩, -, hall⟩
          exact ⟨hnodup, fun i hi => ⟨fun heq => hindex (heq ▸ hi), hfresh i hi⟩, hall⟩
      · simp only [badGrant?, hseen, hstatus, if_false, reduceCtorEq, false_iff]
        rintro ⟨-, -, hall⟩
        exact hstatus (hall index (by simp))

theorem repeated?_eq_none_iff (known : List String) (queue : List Pending) :
    repeated? known queue = none ↔
      (queue.map Pending.requester).Nodup ∧ ∀ r ∈ queue.map Pending.requester, r ∉ known := by
  induction queue generalizing known with
  | nil => simp [repeated?]
  | cons r rest ih =>
    by_cases hknown : r.requester ∈ known
    · simp [repeated?, hknown]
    · simp only [repeated?, hknown, if_false, ih, List.map_cons, List.nodup_cons, List.mem_cons,
        forall_eq_or_imp, not_or]
      constructor
      · rintro ⟨hnodup, hfresh⟩
        exact ⟨⟨fun hmem => (hfresh _ hmem).1 rfl, hnodup⟩, not_false,
          fun x hx => (hfresh x hx).2⟩
      · rintro ⟨⟨hhead, hnodup⟩, -, hfresh⟩
        exact ⟨hnodup, fun x hx => ⟨fun heq => hhead (heq ▸ hx), hfresh x hx⟩⟩

theorem misplaced?_eq_none_iff (slots : List Slot) :
    misplaced? slots = none ↔
      ∀ (i : Nat) (s : Slot), slots[i]? = some s → s.resource.index = i := by
  simp only [misplaced?, List.findSome?_eq_none_iff, Prod.forall,
    List.mem_zipIdx_iff_getElem?]
  constructor
  · intro h i s hs
    have hentry := h s i hs
    by_contra hne
    simp [hne] at hentry
  · intro h s i hs
    simp [h i s hs]

/-- The audit finds nothing exactly if every rule holds. -/
theorem audit_eq_none_iff (p : Pool) : p.audit = none ↔ p.Consistent := by
  have hidle : ¬ (0 < p.retired ∧ p.grants.isEmpty = true) ↔ (p.grants = [] → p.retired = 0) := by
    rw [List.isEmpty_iff, not_and']
    exact forall_congr' fun _ => by omega
  unfold audit
  by_cases hcounted : availableCount p.slots = p.free
  · by_cases hsummed : p.free + p.grantedCount + p.retired = p.total
    · simp only [hcounted, hsummed, ne_eq, not_true_eq_false, if_false, Option.or_eq_none_iff,
        badGrant?_eq_none_iff, repeated?_eq_none_iff]
      constructor
      · rintro ⟨⟨⟨hindices, -, hallocated⟩, hqueue, hnew⟩, hrest⟩
        by_cases hbusy : 0 < p.retired ∧ p.grants.isEmpty = true
        · simp [hbusy] at hrest
        · rw [if_neg hbusy, misplaced?_eq_none_iff] at hrest
          exact ⟨hcounted, hsummed, hindices, hallocated, hqueue, hnew, hidle.mp hbusy, hrest⟩
      · intro h
        refine ⟨⟨⟨h.indices_nodup, by simp, h.allocated⟩, h.queue_nodup, h.queue_new⟩, ?_⟩
        rw [if_neg (hidle.mpr h.idle_retired), misplaced?_eq_none_iff]
        exact h.placed
    · simp only [hcounted, hsummed, ne_eq, not_true_eq_false, not_false_eq_true, if_true, if_false,
        reduceCtorEq, false_iff]
      exact fun h => hsummed h.summed
  · simp only [hcounted, ne_eq, not_false_eq_true, if_true, reduceCtorEq, false_iff]
    exact fun h => hcounted h.counted

theorem Sound.consistent (h : p.Sound v name) : p.Consistent where
  counted := h.counted.symm
  summed := h.total_eq
  indices_nodup := h.indices_nodup
  allocated i hi := by
    obtain ⟨s, hs, hstatus⟩ := (h.held_iff i).mp hi
    rw [hs, Option.map_some, hstatus]
  queue_nodup := h.known_nodup.of_append_right
  queue_new r hr hkey := List.disjoint_of_nodup_append h.known_nodup hkey hr
  idle_retired := h.idle_retired
  placed _ _ hs := h.index_eq hs

theorem Sound.orderly (h : p.Sound v name) : p.Orderly where
  toConsistent := h.consistent
  held i s hs hstatus := (h.held_iff i).mpr ⟨s, hs, hstatus⟩
  known_nodup := h.known_nodup
  ids_nodup := h.ids_nodup
  stamped_iff s hs := by
    obtain ⟨i, hi⟩ := List.mem_iff_getElem?.mp hs
    exact (h.fits i s hi).2

end LeasePool.Pool
