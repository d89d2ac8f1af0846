import LeasePool.Proofs.Slots
import LeasePool.Text.Numeral

/-!
Slot arrays that take the place of others. Provisioners make resources whose ids differ when their
indices do, and shrink and extend slot arrays without touching a held slot. A refit is any change of
that kind: held slots stay where they are, and every slot of the new array was there before or is
fresh.
-/
namespace LeasePool

/-! ### What a provisioner makes -/

/-- The resource as it is while nobody holds it. -/
def Resource.unclaimed (r : Resource) : Resource := { r with acquiredAt := none }

namespace Provisioner

/-- `r` is what the provisioner makes for an index, at some instant, in a new pool or in an
expansion. -/
def Supplies (v : Provisioner) (name : PoolName) (index : Nat) (r : Resource) : Prop :=
  ∃ now start, r = v.make name now index ∨ r = v.makeExpanded name now start index

/-- The id of the resource at an index. -/
def idAt (v : Provisioner) (name : PoolName) (index : Nat) : String :=
  match v with
  | plain => name.resource ++ "-" ++ index.repr
  | custom label _ => label ++ ":" ++ name.resource ++ "-" ++ index.repr

theorem id_make (v : Provisioner) (name : PoolName) (now : Timestamp) (index : Nat) :
    (v.make name now index).id = v.idAt name index := by
  cases v <;> simp only [make, idAt, Resource.fresh, Resource.withMetadata, Resource.withField]

theorem id_makeExpanded (v : Provisioner) (name : PoolName) (now start : Timestamp)
    (index : Nat) : (v.makeExpanded name now start index).id = v.idAt name index := by
  cases v <;> simp only [makeExpanded, Resource.withField, id_make]

theorem index_make (v : Provisioner) (name : PoolName) (now : Timestamp) (index : Nat) :
    (v.make name now index).index = index := by
  cases v <;> simp only [make, Resource.fresh, Resource.withMetadata, Resource.withField]

theorem index_makeExpanded (v : Provisioner) (name : PoolName) (now start : Timestamp)
    (index : Nat) : (v.makeExpanded name now start index).index = index := by
  cases v <;> simp only [makeExpanded, Resource.withField, index_make]

theorem acquiredAt_make (v : Provisioner) (name : PoolName) (now : Timestamp) (index : Nat) :
    (v.make name now index).acquiredAt = none := by
  cases v <;> simp only [make, Resource.fresh, Resource.withMetadata, Resource.withField]

theorem acquiredAt_makeExpanded (v : Provisioner) (name : PoolName) (now start : Timestamp)
    (index : Nat) : (v.makeExpanded name now start index).acquiredAt = none := by
  cases v <;> simp only [makeExpanded, Resource.withField, acquiredAt_make]

theorem Supplies.id_eq {v : Provisioner} {name : PoolName} {index : Nat} {r : Resource}
    (h : v.Supplies name index r) : r.id = v.idAt name index := by
  obtain ⟨now, start, rfl | rfl⟩ := h
  · exact id_make v name now index
  · exact id_makeExpanded v name now start index

theorem Supplies.index_eq {v : Provisioner} {name : PoolName} {index : Nat} {r : Resource}
    (h : v.Supplies name index r) : r.index = index := by
  obtain ⟨now, start, rfl | rfl⟩ := h
  · exact index_make v name now index
  · exact index_makeExpanded v name now start index

theorem Supplies.acquiredAt_eq {v : Provisioner} {name : PoolName} {index : Nat} {r : Resource}
    (h : v.Supplies name index r) : r.acquiredAt = none := by
  obtain ⟨now, start, rfl | rfl⟩ := h
  · exact acquiredAt_make v name now index
  · exact acquiredAt_makeExpanded v name now start index

/-- The decimal numeral at the end of an id gives the index back. -/
theorem idAt_injective (v : Provisioner) (name : PoolName) {i j : Nat}
    (h : v.idAt name i = v.idAt name j) : i = j := by
  have hrepr : i.repr.toList = j.repr.toList := by
    have lists := congrArg String.toList h
    cases v with
    | plain =>
      simp only [idAt, String.toList_append] at lists
      exact List.append_cancel_left lists
    | custom label overlay =>
      simp only [idAt, String.toList_append] at lists
      exact List.append_cancel_left lists
  have hread := Text.natural?_repr i
  rw [hrepr, Text.natural?_repr j] at hread
  exact (Option.some.inj hread).symm

theorem stock_getElem? (v : Provisioner) (name : PoolName) (now : Readings) (size i : Nat)
    (s : Slot) (h : (v.stock name now size)[i]? = some s) :
    s.status = .available ∧ v.Supplies name i s.resource := by
  simp only [stock, List.getElem?_map, Option.map_eq_some_iff] at h
  obtain ⟨index, hindex, rfl⟩ := h
  obtain ⟨hlt, rfl⟩ := List.getElem?_eq_some_iff.mp hindex
  rw [List.getElem_range]
  exact ⟨rfl, now.made _, now.expanded, Or.inl rfl⟩

theorem length_stock (v : Provisioner) (name : PoolName) (now : Readings) (size : Nat) :
    (v.stock name now size).length = size := by
  simp [stock]

theorem availableCount_stock (v : Provisioner) (name : PoolName) (now : Readings) (size : Nat) :
    availableCount (v.stock name now size) = size := by
  have hall : ∀ s ∈ v.stock name now size, s.isAvailable = true := by
    intro s hs
    simp only [stock, List.mem_map] at hs
    obtain ⟨index, -, rfl⟩ := hs
    rfl
  rw [availableCount, List.countP_eq_length.mpr hall, length_stock]

/-- The slots that an expansion adds. -/
def added (v : Provisioner) (name : PoolName) (now : Readings) (start count : Nat) : List Slot :=
  (List.range count).map fun k =>
    .ofResource (v.makeExpanded name (now.made (start + k)) now.expanded (start + k))

theorem extend_eq (v : Provisioner) (name : PoolName) (now : Readings) (slots : List Slot)
    (count : Nat) :
    v.extend name now slots count = slots ++ v.added name now slots.length count := rfl

theorem added_getElem? (v : Provisioner) (name : PoolName) (now : Readings)
    (start count k : Nat) (s : Slot) (h : (v.added name now start count)[k]? = some s) :
    s.status = .available ∧ v.Supplies name (start + k) s.resource := by
  simp only [added, List.getElem?_map, Option.map_eq_some_iff] at h
  obtain ⟨index, hindex, rfl⟩ := h
  obtain ⟨hlt, rfl⟩ := List.getElem?_eq_some_iff.mp hindex
  rw [List.getElem_range]
  exact ⟨rfl, now.made _, now.expanded, Or.inr rfl⟩

theorem length_added (v : Provisioner) (name : PoolName) (now : Readings) (start count : Nat) :
    (v.added name now start count).length = count := by
  simp [added]

theorem countP_added (v : Provisioner) (name : PoolName) (now : Readings) (start count : Nat)
    (q : Slot → Bool) (b : Bool) (hq : ∀ r, q (.ofResource r) = b) :
    (v.added name now start count).countP q = if b then count else 0 := by
  rw [added, List.countP_map]
  have hconst : (q ∘ fun k => Slot.ofResource
      (v.makeExpanded name (now.made (start + k)) now.expanded (start + k))) = fun _ => b := by
    funext k
    exact hq _
  rw [hconst]
  cases b <;> simp

/-- While slots are held, shrinking only retires slots, and as many as it may. -/
theorem forall₂_kept_shrink (v : Provisioner) (slots : List Slot) (count : Nat) :
    List.Forall₂ Slot.Kept slots (v.shrink slots count true).1 := by
  cases v with
  | plain => exact forall₂_kept_retireLast _ slots count
  | custom label overlay =>
    have hfirst := forall₂_kept_retireLast Resource.isExpanded slots count
    have hsecond := forall₂_kept_retireLast (fun _ => true)
      (retireLast Resource.isExpanded slots count).1
      (count - (retireLast Resource.isExpanded slots count).2)
    exact Slot.forall₂_kept_trans hfirst hsecond

theorem shrink_snd (v : Provisioner) (slots : List Slot) (count : Nat) :
    (v.shrink slots count true).2 = min count (availableCount slots) := by
  have hevery (others : List Slot) :
      (others.countP fun s => s.isAvailable && true) = availableCount others := by
    simp [availableCount]
  cases v with
  | plain => exact (retireLast_snd (fun _ => true) slots count).trans (by rw [hevery])
  | custom label overlay =>
    have hflagged := retireLast_snd Resource.isExpanded slots count
    have hleft := availableCount_retireLast Resource.isExpanded slots count
    have hothers := retireLast_snd (fun _ => true) (retireLast Resource.isExpanded slots count).1
      (count - (retireLast Resource.isExpanded slots count).2)
    rw [hevery] at hothers
    change (retireLast Resource.isExpanded slots count).2 + (retireLast (fun _ => true)
      (retireLast Resource.isExpanded slots count).1
      (count - (retireLast Resource.isExpanded slots count).2)).2 = _
    omega

theorem availableCount_shrink (v : Provisioner) (slots : List Slot) (count : Nat) :
    availableCount (v.shrink slots count true).1 + (v.shrink slots count true).2 =
      availableCount slots := by
  cases v with
  | plain => exact availableCount_retireLast _ slots count
  | custom label overlay =>
    have hflagged := availableCount_retireLast Resource.isExpanded slots count
    have hothers := availableCount_retireLast (fun _ => true)
      (retireLast Resource.isExpanded slots count).1
      (count - (retireLast Resource.isExpanded slots count).2)
    change availableCount (retireLast (fun _ => true)
      (retireLast Resource.isExpanded slots count).1
      (count - (retireLast Resource.isExpanded slots count).2)).1 +
      ((retireLast Resource.isExpanded slots count).2 + (retireLast (fun _ => true)
      (retireLast Resource.isExpanded slots count).1
      (count - (retireLast Resource.isExpanded slots count).2)).2) = _
    omega

end Provisioner

/-! ### Refits -/

theorem Resource.unclaimed_of_acquiredAt {r : Resource} (h : r.acquiredAt = none) :
    r.unclaimed = r := by
  cases r
  simp only at h
  rw [h]
  rfl

/-- The slot at an index holds a resource of the provisioner for that index, which is stamped
exactly while it is allocated. -/
def Slot.Fits (v : Provisioner) (name : PoolName) (index : Nat) (s : Slot) : Prop :=
  v.Supplies name index s.resource.unclaimed ∧
    (s.resource.acquiredAt.isSome = true ↔ s.status = .allocated)

theorem Slot.Kept.fits {v : Provisioner} {name : PoolName} {index : Nat} {s t : Slot}
    (h : s.Kept t) (hs : s.Fits v name index) : t.Fits v name index := by
  obtain ⟨hresource, hstatus⟩ := h
  unfold Fits
  rw [hresource, hstatus]
  exact hs

theorem Slot.fits_of_supplies {v : Provisioner} {name : PoolName} {index : Nat} {s : Slot}
    (hstatus : s.status = .available) (h : v.Supplies name index s.resource) :
    s.Fits v name index := by
  unfold Fits
  rw [Resource.unclaimed_of_acquiredAt h.acquiredAt_eq, h.acquiredAt_eq, hstatus]
  exact ⟨h, by simp⟩

/-- A slot array that takes the place of another one without touching a held slot. -/
structure Refit (v : Provisioner) (name : PoolName) (old new : List Slot) : Prop where
  held : ∀ (i : Nat) (s : Slot), old[i]? = some s → s.status = .allocated → new[i]? = some s
  origin : ∀ (i : Nat) (t : Slot), new[i]? = some t →
    (∃ s, old[i]? = some s ∧ s.Kept t) ∨
      t.status = .available ∧ v.Supplies name i t.resource

namespace Refit

variable {v : Provisioner} {name : PoolName} {old kept new : List Slot}

theorem fits (h : Refit v name old new)
    (hold : ∀ (i : Nat) (s : Slot), old[i]? = some s → s.Fits v name i) (i : Nat) (t : Slot)
    (ht : new[i]? = some t) : t.Fits v name i := by
  rcases h.origin i t ht with ⟨s, hs, hst⟩ | ⟨hstatus, hsupplies⟩
  · exact hst.fits (hold i s hs)
  · exact Slot.fits_of_supplies hstatus hsupplies

theorem allocated_iff (h : Refit v name old new) (i : Nat) :
    (∃ t, new[i]? = some t ∧ t.status = .allocated) ↔
      ∃ s, old[i]? = some s ∧ s.status = .allocated := by
  constructor
  · rintro ⟨t, ht, hstatus⟩
    rcases h.origin i t ht with ⟨s, hs, hst⟩ | ⟨havailable, -⟩
    · exact ⟨s, hs, hst.2.mp hstatus⟩
    · rw [havailable] at hstatus
      exact SlotStatus.noConfusion hstatus
  · rintro ⟨s, hs, hstatus⟩
    exact ⟨s, h.held i s hs hstatus, hstatus⟩

/-- Slots that keep their holders, with fresh ones after them. -/
theorem of_append (h : List.Forall₂ Slot.Kept old kept) (fresh : List Slot)
    (hfresh : ∀ k t, fresh[k]? = some t →
      t.status = .available ∧ v.Supplies name (old.length + k) t.resource) :
    Refit v name old (kept ++ fresh) := by
  have hlength : old.length = kept.length := h.length_eq
  constructor
  · intro i s hs hstatus
    obtain ⟨hi, rfl⟩ := List.getElem?_eq_some_iff.mp hs
    have hi' : i < kept.length := hlength ▸ hi
    have hget : old[i].Kept kept[i] := h.get hi hi'
    rw [List.getElem?_append_left hi', List.getElem?_eq_getElem hi',
      hget.eq_of_allocated hstatus]
  · intro i t ht
    by_cases hi : i < kept.length
    · rw [List.getElem?_append_left hi, List.getElem?_eq_getElem hi, Option.some.injEq] at ht
      have hi' : i < old.length := hlength ▸ hi
      refine Or.inl ⟨old[i], List.getElem?_eq_getElem hi', ?_⟩
      rw [← ht]
      exact h.get hi' hi
    · rw [List.getElem?_append_right (by omega)] at ht
      have hfit := hfresh (i - kept.length) t ht
      rw [show old.length + (i - kept.length) = i by omega] at hfit
      exact Or.inr hfit

theorem of_forall₂ (h : List.Forall₂ Slot.Kept old new) : Refit v name old new := by
  have happend : Refit v name old (new ++ []) := of_append h [] (by simp)
  rwa [List.append_nil] at happend

/-- An array of which nothing is held may be cut, and its slots may change their status. -/
theorem of_take (n : Nat) (f : Slot → Slot) (hf : ∀ s ∈ old, s.Kept (f s))
    (hidle : ∀ s ∈ old, s.status ≠ .allocated) : Refit v name old ((old.take n).map f) := by
  constructor
  · intro i s hs hstatus
    exact absurd hstatus (hidle s (List.mem_of_getElem? hs))
  · intro i t ht
    rw [List.getElem?_map, Option.map_eq_some_iff] at ht
    obtain ⟨s, hs, rfl⟩ := ht
    have hold : old[i]? = some s := by
      rw [List.getElem?_take] at hs
      split at hs
      · exact hs
      · simp at hs
    exact Or.inl ⟨s, hold, hf s (List.mem_of_getElem? hold)⟩

end Refit

end LeasePool
