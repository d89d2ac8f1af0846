import LeasePool.Proofs.Expansions
import LeasePool.Proofs.Runs

/-!
Coordinators in lockstep. Two coordinators that were created with the same size and handle the same
inputs, with the same outcomes of deliveries, agree on everything but what their provisioners put
into the slots and what the clocks showed: they grant the same slots to the same requesters under
the same leases, and retire and bring back the same slots.
-/
namespace LeasePool

/-! ### Slots in the same status -/

/-- The slots are in the same status place by place. -/
def SameStatus (slots slots' : List Slot) : Prop :=
  List.Forall₂ (fun s t => s.status = t.status) slots slots'

namespace SameStatus

variable {slots slots' : List Slot}

theorem sameStatus_iff :
    SameStatus slots slots' ↔ slots.map Slot.status = slots'.map Slot.status := by
  rw [← List.forall₂_eq_eq_eq, List.forall₂_map_left_iff, List.forall₂_map_right_iff]
  rfl

theorem map_eq (h : SameStatus slots slots') : slots.map Slot.status = slots'.map Slot.status :=
  sameStatus_iff.mp h

/-- What can be told from the status is the same of both. -/
theorem countP_eq (h : SameStatus slots slots') {q : Slot → Bool}
    (hq : ∀ s t : Slot, s.status = t.status → q s = q t) : slots.countP q = slots'.countP q := by
  induction h with
  | nil => rfl
  | cons hst _ ih => rw [List.countP_cons, List.countP_cons, ih, hq _ _ hst]

theorem isAvailable_eq {s t : Slot} (h : s.status = t.status) : s.isAvailable = t.isAvailable := by
  rw [Slot.isAvailable, Slot.isAvailable, h]

theorem isRetired_eq {s t : Slot} (h : s.status = t.status) : s.isRetired = t.isRetired := by
  rw [Slot.isRetired, Slot.isRetired, h]

theorem findIdx?_eq (h : SameStatus slots slots') :
    slots.findIdx? Slot.isAvailable = slots'.findIdx? Slot.isAvailable := by
  induction h with
  | nil => rfl
  | cons hst _ ih => rw [List.findIdx?_cons, List.findIdx?_cons, ih, isAvailable_eq hst]

theorem modify (h : SameStatus slots slots') (index : Nat) {f g : Slot → Slot}
    (hfg : ∀ s t, (f s).status = (g t).status) :
    SameStatus (slots.modify index f) (slots'.modify index g) := by
  induction h generalizing index with
  | nil => cases index <;> exact .nil
  | cons hst hrest ih =>
    cases index with
    | zero => exact .cons (hfg _ _) hrest
    | succ index => exact .cons hst (ih index)

theorem take (h : SameStatus slots slots') (n : Nat) :
    SameStatus (slots.take n) (slots'.take n) := List.forall₂_take n h

theorem map_withStatus (h : SameStatus slots slots') (status : SlotStatus) :
    SameStatus (slots.map (Slot.withStatus status)) (slots'.map (Slot.withStatus status)) := by
  unfold SameStatus
  rw [List.forall₂_map_left_iff, List.forall₂_map_right_iff]
  exact h.imp fun _ _ _ => rfl

theorem findIdxs_eq (h : SameStatus slots slots') {q : Slot → Bool}
    (hq : ∀ s t : Slot, s.status = t.status → q s = q t) (start : Nat) :
    slots.findIdxs q start = slots'.findIdxs q start := by
  induction h generalizing start with
  | nil => rfl
  | cons hst _ ih => rw [List.findIdxs_cons, List.findIdxs_cons, ih, hq _ _ hst]

/-- Slots that are put into one status at the same places agree again. -/
theorem changeAt (h : SameStatus slots slots') (places : List Nat) (status : SlotStatus) :
    SameStatus (LeasePool.changeAt places (Slot.withStatus status) slots)
      (LeasePool.changeAt places (Slot.withStatus status) slots') := by
  have hset (o : Option Slot) : (o.map (Slot.withStatus status)).map Slot.status =
      (o.map Slot.status).map fun _ => status := by
    cases o <;> rfl
  rw [sameStatus_iff] at h ⊢
  apply List.ext_getElem?
  intro i
  have hi : slots[i]?.map Slot.status = slots'[i]?.map Slot.status := by
    rw [← List.getElem?_map, h, List.getElem?_map]
  rw [List.getElem?_map, List.getElem?_map, changeAt_getElem?, changeAt_getElem?]
  split
  · rw [hset, hset, hi]
  · exact hi

theorem retireLast (h : SameStatus slots slots') (count : Nat) :
    SameStatus (LeasePool.retireLast (fun _ => true) slots count).1
      (LeasePool.retireLast (fun _ => true) slots' count).1 := by
  rw [retireLast_fst, retireLast_fst,
    h.findIdxs_eq fun s t hst => congrArg (· && true) (isAvailable_eq hst)]
  exact h.changeAt _ _

theorem reactivate (h : SameStatus slots slots') (n : Nat) :
    SameStatus (LeasePool.reactivate n slots).1 (LeasePool.reactivate n slots').1 := by
  rw [reactivate_fst, reactivate_fst, h.findIdxs_eq fun _ _ => isRetired_eq]
  exact h.changeAt _ _

/-- Growing adds available slots at the end of either. -/
theorem grown (h : SameStatus slots slots') (v v' : Provisioner) (name name' : PoolName)
    (now now' : Readings) (count : Nat) :
    SameStatus (Pool.grown v name now slots count) (Pool.grown v' name' now' slots' count) := by
  have hback : (LeasePool.reactivate count slots).2 = (LeasePool.reactivate count slots').2 := by
    rw [reactivate_snd, reactivate_snd, retiredCount, retiredCount,
      h.countP_eq fun _ _ => isRetired_eq]
  unfold Pool.grown
  rw [hback]
  refine List.rel_append (h.reactivate count) ?_
  unfold Provisioner.added
  rw [List.forall₂_map_left_iff, List.forall₂_map_right_iff]
  exact List.forall₂_same.mpr fun _ _ => rfl

end SameStatus

/-! ### Pools -/

namespace Pool

/-- The pools agree on all but what is in their slots. -/
structure InStep (p q : Pool) : Prop where
  statuses : SameStatus p.slots q.slots
  free_eq : q.free = p.free
  queue_eq : q.queue = p.queue
  grants_eq : q.grants = p.grants
  target_eq : q.target = p.target

namespace InStep

variable {v v' : Provisioner} {name name' : PoolName} {p q : Pool}

theorem retired_eq (h : p.InStep q) : q.retired = p.retired :=
  (h.statuses.countP_eq fun _ _ => SameStatus.isRetired_eq).symm

theorem inService_eq (h : p.InStep q) : q.inService = p.inService := by
  rw [inService, inService, h.retired_eq, total, total, h.statuses.length_eq]

theorem knows_iff (h : p.InStep q) (requester : String) :
    q.Knows requester ↔ p.Knows requester := by
  rw [Knows, Knows, h.grants_eq, h.queue_eq]

theorem grant (h : p.InStep q) (now now' : Timestamp) (index : Nat) (requester : String) :
    (p.grant now index requester).InStep (q.grant now' index requester) :=
  ⟨h.statuses.modify index fun _ _ => rfl, congrArg (· - 1) h.free_eq, h.queue_eq,
    congrArg (· ++ [(requester, index)]) h.grants_eq, h.target_eq⟩

theorem vacate (h : p.InStep q) (index : Nat) (requester : String) :
    (p.vacate index requester).InStep (q.vacate index requester) := by
  have hback : q.statusBack = p.statusBack := by
    rw [statusBack, statusBack, h.target_eq, h.inService_eq]
  refine ⟨h.statuses.modify index fun _ _ => hback.symm, ?_, h.queue_eq, ?_, h.target_eq⟩
  · simp only [Pool.vacate, hback, h.free_eq]
  · simp only [Pool.vacate, h.grants_eq]

theorem compact (h : p.InStep q) : p.compact.1.InStep q.compact.1 := by
  have hcut := (h.statuses.take p.target).map_withStatus .available
  unfold Pool.compact
  rw [← h.statuses.length_eq, h.retired_eq, h.target_eq]
  split
  · exact h
  · exact ⟨hcut, hcut.length_eq.symm, h.queue_eq, h.grants_eq, rfl⟩

theorem tidy (h : p.InStep q) : p.tidy.InStep q.tidy := by
  unfold Pool.tidy
  rw [h.grants_eq]
  split
  · exact h.compact
  · exact h

/-- Sound pools that agree still do when they are resized. -/
theorem resize (h : p.InStep q) (hp : p.Sound v name) (hq : q.Sound v' name')
    (hflags : ExpandedLast p.slots) (hflags' : ExpandedLast q.slots) (now now' : Readings)
    (size : Nat) : (p.resize name v.strategy now size).1.InStep
      (q.resize name' v'.strategy now' size).1 := by
  have hservice := h.inService_eq
  by_cases hle : p.inService ≤ size
  · rw [hp.resize_grow now hle, hq.resize_grow now' (hservice ▸ hle)]
    simp only [hservice, h.grants_eq]
    exact ⟨h.statuses.grown v v' name name' now now' _, rfl, h.queue_eq, rfl, rfl⟩
  · rw [hp.resize_shrink now (by omega), hq.resize_shrink now' (by omega)]
    simp only [hservice, h.grants_eq, hflags.shrink_eq, hflags'.shrink_eq]
    refine ⟨?_, rfl, h.queue_eq, rfl, rfl⟩
    split
    · exact h.statuses.take size
    · exact h.statuses.retireLast _

end InStep

/-- A resize leaves the flagged slots at the end. -/
theorem Sound.expandedLast_resize {v : Provisioner} {name : PoolName} {p : Pool}
    (h : p.Sound v name) (hflags : ExpandedLast p.slots) (now : Readings) (size : Nat) :
    ExpandedLast (p.resize name v.strategy now size).1.slots := by
  by_cases hle : p.inService ≤ size
  · rw [h.resize_grow now hle]
    have hkept := forall₂_kept_reactivate (size - p.inService) p.slots
    refine Provisioner.expandedLast_append (hflags.of_kept hkept) (fun i s hs => ?_) now _ _
    obtain ⟨hi, rfl⟩ := List.getElem?_eq_some_iff.mp hs
    have hi' : i < p.slots.length := hkept.length_eq ▸ hi
    exact Slot.Kept.fits (hkept.get hi' hi) (h.fits i _ (List.getElem?_eq_getElem hi'))
  · rw [h.resize_shrink now (by omega)]
    simp only
    split
    · exact hflags.take size
    · exact hflags.of_kept (v.forall₂_kept_shrink p.slots _)

end Pool

/-! ### Coordinators -/

/-- What tells leases apart: all but the instant of the grant. -/
def Lease.ticket (l : Lease) : Nat × Nat × String := (l.id, l.index, l.requester)

/-- To whom a response is sent and whether it arrives, with the channel, the lease and the index of
the slot if it grants one. -/
def Effect.sent? : Effect → Option (String × Option (String × Nat × Nat) × Bool)
  | .delivery requester (.acquired channel lease r) delivered =>
    some (requester, some (channel, lease, r.index), delivered)
  | .delivery requester .cancelled delivered => some (requester, none, delivered)
  | _ => none

namespace Coordinator

variable {c c' d d' : Coordinator} {clock clock' : Readings} {reach : String → Bool}

/-- The coordinators agree on all but what is in their slots, their settings, and their timers. -/
structure InStep (c d : Coordinator) : Prop where
  pool : c.pool.InStep d.pool
  leases : ∀ channel : String,
    (d.leases.get? channel).map Lease.ticket = (c.leases.get? channel).map Lease.ticket
  nextLease_eq : d.nextLease = c.nextLease

/-- A sound coordinator whose flagged slots are the last ones. -/
structure Ranked (c : Coordinator) : Prop extends c.Sound where
  flags : ExpandedLast c.pool.slots

/-! ### Flags -/

theorem Ranked.offer {requester : String} {effects : List Effect} (h : c.Ranked)
    (hoffer : Offer clock reach c requester effects c') (hfree : 0 < c.pool.free)
    (hnew : ¬ c.pool.Knows requester) : c'.Ranked := by
  refine ⟨hoffer.sound h.toSound hfree hnew, ?_⟩
  cases hoffer with
  | granted index s hfirst hreach => exact h.flags.modify index fun _ => rfl
  | refused index s hfirst hreach => exact h.flags

theorem Ranked.dequeue {r : Pending} {rest : List Pending} (h : c.Ranked)
    (hqueue : c.pool.queue = r :: rest) : (c.withQueue rest).Ranked :=
  ⟨(h.toSound.dequeue hqueue).1, h.flags⟩

theorem Ranked.drained {effects : List Effect} (h : c.Ranked)
    (hdrain : Drained clock reach c effects c') : c'.Ranked := by
  induction hdrain with
  | done hrest => exact h
  | serve hfree hqueue hoffer hmore ih =>
    exact ih ((h.dequeue hqueue).offer hoffer hfree (h.toSound.dequeue hqueue).2)

theorem Ranked.closed_flags (h : c.Ranked) (channel : String) (l : Lease) :
    ExpandedLast (c.closed channel l).pool.slots := by
  have hvacated : ExpandedLast (c.pool.vacate l.index l.requester).slots :=
    h.flags.modify l.index fun _ => rfl
  simp only [Coordinator.closed, Pool.tidy, Pool.compact]
  split
  · split
    · exact hvacated
    · exact (hvacated.take _).of_flags (by rw [List.map_map]; rfl)
  · exact hvacated

theorem Ranked.changed {input : Input} {effects : List Effect} (h : c.Ranked)
    (hchange : Changed clock reach c input effects c') : c'.Ranked := by
  refine ⟨hchange.sound h.toSound, ?_⟩
  cases hchange with
  | @released channel only l notes hlease honly hnotes => exact h.closed_flags channel l
  | @expired channel l notes hlease hnotes => exact h.closed_flags channel l
  | @resized size slots outcome hsize hresize hrefit =>
    have hflags := h.pool.expandedLast_resize h.flags clock size
    rwa [hresize] at hflags
  | _ => exact h.flags

theorem Ranked.stepped {input : Input} {effects : List Effect} (h : c.Ranked)
    (hstep : Stepped clock reach c input effects c') : c'.Ranked := by
  cases hstep with
  | intro hchange hdrain => exact (h.changed hchange).drained hdrain

/-! ### Two steps -/

namespace InStep

theorem settled (h : InStep c d) : d.Settled ↔ c.Settled := by
  rw [Settled, Settled, h.pool.free_eq, h.pool.queue_eq]

theorem withQueue (h : InStep c d) (queue : List Pending) :
    InStep (c.withQueue queue) (d.withQueue queue) :=
  ⟨⟨h.pool.statuses, h.pool.free_eq, rfl, h.pool.grants_eq, h.pool.target_eq⟩, h.leases,
    h.nextLease_eq⟩

/-- A lease of the one coordinator is one of the other. -/
theorem exists_lease (h : InStep c d) {channel : String} {l : Lease}
    (hlease : c.leases.get? channel = some l) :
    ∃ l', d.leases.get? channel = some l' ∧ l'.ticket = l.ticket := by
  have hboth := h.leases channel
  rwa [hlease, Option.map_some, Option.map_eq_some_iff] at hboth

theorem symm (h : InStep c d) : InStep d c :=
  ⟨⟨h.pool.statuses.flip.imp fun _ _ hst => hst.symm, h.pool.free_eq.symm, h.pool.queue_eq.symm,
    h.pool.grants_eq.symm, h.pool.target_eq.symm⟩, fun channel => (h.leases channel).symm,
    h.nextLease_eq.symm⟩

theorem granted (h : InStep c d) (index : Nat) (requester : String) :
    InStep (c.granted clock index requester) (d.granted clock' index requester) := by
  refine ⟨h.pool.grant (clock.acquired requester) (clock'.acquired requester) index requester,
    fun channel => ?_, congrArg (· + 1) h.nextLease_eq⟩
  rw [granted_leases, granted_leases]
  split
  · simp only [Option.map_some, Lease.ticket, h.nextLease_eq]
  · exact h.leases channel

/-- Both coordinators offer the slot at the same index. -/
theorem offer (h : InStep c d) (hc : c.Sound) (hd : d.Sound) {requester : String}
    {effects effects' : List Effect} (hoffer : Offer clock reach c requester effects c')
    (hoffer' : Offer clock' reach d requester effects' d') :
    InStep c' d' ∧ effects.filterMap Effect.sent? = effects'.filterMap Effect.sent? := by
  have hindex {i j : Nat} {s t : Slot} (hs : c.pool.IsFirst i s) (ht : d.pool.IsFirst j t) :
      j = i ∧ t.resource.index = s.resource.index := by
    have hsame : j = i := by
      have hfirst := h.pool.statuses.findIdx?_eq
      rw [hs.1, ht.1, Option.some.injEq] at hfirst
      exact hfirst.symm
    exact ⟨hsame, (hd.pool.index_eq ht.2).trans (hsame.trans (hc.pool.index_eq hs.2).symm)⟩
  cases hoffer with
  | granted i s hs hreach =>
    cases hoffer' with
    | granted j t ht hreach' =>
      obtain ⟨rfl, hplace⟩ := hindex hs ht
      refine ⟨h.granted j requester, ?_⟩
      simp [List.filterMap_cons, Effect.sent?, Slot.allocate, h.nextLease_eq, hplace]
    | refused j t ht hreach' =>
      rw [hreach] at hreach'
      cases hreach'
  | refused i s hs hreach =>
    cases hoffer' with
    | granted j t ht hreach' =>
      rw [hreach] at hreach'
      cases hreach'
    | refused j t ht hreach' =>
      obtain ⟨rfl, hplace⟩ := hindex hs ht
      refine ⟨⟨h.pool, h.leases, congrArg (· + 1) h.nextLease_eq⟩, ?_⟩
      simp [List.filterMap_cons, Effect.sent?, Slot.allocate, h.nextLease_eq, hplace]

/-- Both coordinators serve the same requests. -/
theorem drained (h : InStep c d) (hc : c.Sound) (hd : d.Sound) {effects effects' : List Effect}
    (hdrain : Drained clock reach c effects c') (hdrain' : Drained clock' reach d effects' d') :
    InStep c' d' ∧ effects.filterMap Effect.sent? = effects'.filterMap Effect.sent? := by
  induction hdrain generalizing d effects' with
  | done hrest =>
    cases hdrain' with
    | done hrest' => exact ⟨h, rfl⟩
    | serve hfree' hqueue' => exact absurd (h.settled.mpr hrest) (not_settled hfree' hqueue')
  | serve hfree hqueue hoffer hmore ih =>
    cases hdrain' with
    | done hrest' => exact absurd (h.settled.mp hrest') (not_settled hfree hqueue)
    | serve hfree' hqueue' hoffer' hmore' =>
      rw [h.pool.queue_eq, hqueue] at hqueue'
      obtain ⟨rfl, rfl⟩ := List.cons.inj hqueue'
      obtain ⟨hpopped, hnew⟩ := hc.dequeue hqueue
      obtain ⟨hpopped', hnew'⟩ := hd.dequeue (h.pool.queue_eq.trans hqueue)
      obtain ⟨hoffered, hsent⟩ := (h.withQueue _).offer hpopped hpopped' hoffer hoffer'
      obtain ⟨hserved, hmore⟩ := ih hoffered (hoffer.sound hpopped hfree hnew)
        (hoffer'.sound hpopped' hfree' hnew') hmore'
      refine ⟨hserved, ?_⟩
      rw [List.filterMap_append, List.filterMap_append, hsent, hmore]

theorem closed (h : InStep c d) (channel : String) {l l' : Lease} (hticket : l'.ticket = l.ticket) :
    InStep (c.closed channel l) (d.closed channel l') := by
  simp only [Lease.ticket, Prod.mk.injEq] at hticket
  obtain ⟨-, hindex, hrequester⟩ := hticket
  refine ⟨?_, fun other => ?_, h.nextLease_eq⟩
  · simp only [Coordinator.closed, hindex, hrequester]
    exact (h.pool.vacate l.index l.requester).tidy
  · rw [closed_leases, closed_leases]
    split
    · rfl
    · exact h.leases other

theorem cancelWatcher (h : InStep c d) (lease lease' : Nat) :
    InStep (c.cancelWatcher lease) (d.cancelWatcher lease') :=
  ⟨h.pool, h.leases, h.nextLease_eq⟩

/-- The same input changes both coordinators alike. -/
theorem changed (h : InStep c d) (hc : c.Ranked) (hd : d.Ranked) {input : Input}
    {effects effects' : List Effect} (hchange : Changed clock reach c input effects c')
    (hchange' : Changed clock' reach d input effects' d') : InStep c' d' := by
  cases hchange with
  | duplicate requester priority hknown =>
    cases hchange' with
    | duplicate => exact h
    | admitted _ _ hnew | queued _ _ hnew =>
      exact absurd ((h.pool.knows_iff requester).mpr hknown) hnew
  | admitted requester priority hnew | queued requester priority hnew =>
    cases hchange' with
    | duplicate _ _ hknown => exact absurd ((h.pool.knows_iff requester).mp hknown) hnew
    | admitted | queued =>
      rw [h.pool.queue_eq]
      exact h.withQueue _
  | @released channel only l notes hlease honly hnotes =>
    obtain ⟨l', hlease', hticket⟩ := h.exists_lease hlease
    have hid : l'.id = l.id := congrArg Prod.fst hticket
    cases hchange' with
    | released hfound =>
      obtain rfl := Option.some.inj (hlease'.symm.trans hfound)
      exact (h.cancelWatcher _ _).closed _ hticket
    | strayRelease _ _ _ hstray =>
      obtain ⟨k, hk, hne⟩ := hstray l' hlease'
      exact absurd ((honly k hk).trans hid.symm) hne
  | strayRelease channel only n hstray =>
    cases hchange' with
    | @released _ _ l' _ hlease' honly' =>
      obtain ⟨l, hlease, hticket⟩ := h.symm.exists_lease hlease'
      have hid : l.id = l'.id := congrArg Prod.fst hticket
      obtain ⟨k, hk, hne⟩ := hstray l hlease
      exact absurd ((honly' k hk).trans hid.symm) hne
    | strayRelease => exact h
  | @expired channel l notes hlease hnotes =>
    obtain ⟨l', hlease', hticket⟩ := h.exists_lease hlease
    have hid : l'.id = l.id := congrArg Prod.fst hticket
    generalize hlast : l.id = lease at hchange'
    cases hchange' with
    | expired hfound =>
      obtain rfl := Option.some.inj (hlease'.symm.trans hfound)
      exact h.closed channel hticket
    | strayExpiry _ hstray => exact absurd (hid.trans hlast) (hstray l' hlease')
  | strayExpiry e hstray =>
    cases hchange' with
    | expired hlease' =>
      obtain ⟨l, hlease, hticket⟩ := h.symm.exists_lease hlease'
      exact absurd (congrArg Prod.fst hticket) (hstray l hlease)
    | strayExpiry => exact h
  | resizeRejected =>
    cases hchange' with
    | resizeRejected => exact h
    | resized hsize => exact absurd hsize (Nat.lt_irrefl 0)
  | @resized size slots outcome hsize hresize hrefit =>
    cases hchange' with
    | resizeRejected => exact absurd hsize (Nat.lt_irrefl 0)
    | resized _ hresize' =>
      have hpools := h.pool.resize hc.pool hd.pool hc.flags hd.flags clock clock' size
      rw [hresize, hresize'] at hpools
      exact ⟨hpools, h.leases, h.nextLease_eq⟩
  | withdrawn requester hwaits =>
    cases hchange' with
    | withdrawn =>
      rw [h.pool.queue_eq]
      exact h.withQueue _
    | notWaiting _ hgone => exact absurd (h.pool.queue_eq ▸ hwaits) hgone
  | notWaiting requester hgone =>
    cases hchange' with
    | withdrawn _ hwaits => exact absurd (h.pool.queue_eq ▸ hwaits) hgone
    | notWaiting => exact h
  | status | allocation =>
    cases hchange'
    exact h

end InStep

/-! ### Responses to changes -/

theorem Changed.sent_of_cancel {requester : String} {effects : List Effect}
    (hchange : Changed clock reach c (.message (.cancel requester)) effects c') :
    effects.filterMap Effect.sent? =
      if requester ∈ c.pool.queue.map Pending.requester then
        [(requester, none, reach requester)] else [] := by
  cases hchange with
  | withdrawn _ hwaits =>
    rw [if_pos hwaits]
    cases reach requester <;> rfl
  | notWaiting _ hgone =>
    rw [if_neg hgone]
    rfl

theorem Changed.sent_eq_nil {input : Input} {effects : List Effect}
    (hchange : Changed clock reach c input effects c')
    (hcancel : ∀ requester, input ≠ .message (.cancel requester)) :
    effects.filterMap Effect.sent? = [] := by
  cases hchange with
  | released hlease honly hnotes =>
    rw [List.filterMap_cons_none rfl, filterMap_closing fun _ => rfl]
    rfl
  | expired hlease hnotes =>
    rw [filterMap_closing fun _ => rfl]
    rfl
  | withdrawn requester hwaits => exact absurd rfl (hcancel requester)
  | _ => rfl

namespace InStep

theorem changed_sent (h : InStep c d) {input : Input} {effects effects' : List Effect}
    (hchange : Changed clock reach c input effects c')
    (hchange' : Changed clock' reach d input effects' d') :
    effects.filterMap Effect.sent? = effects'.filterMap Effect.sent? := by
  by_cases hcancel : ∃ requester, input = .message (.cancel requester)
  · obtain ⟨requester, rfl⟩ := hcancel
    rw [hchange.sent_of_cancel, hchange'.sent_of_cancel, h.pool.queue_eq]
  · have hother : ∀ requester, input ≠ .message (.cancel requester) :=
      fun requester heq => hcancel ⟨requester, heq⟩
    rw [hchange.sent_eq_nil hother, hchange'.sent_eq_nil hother]

theorem stepped (h : InStep c d) (hc : c.Ranked) (hd : d.Ranked) {input : Input}
    {effects effects' : List Effect} (hstep : Stepped clock reach c input effects c')
    (hstep' : Stepped clock' reach d input effects' d') :
    InStep c' d' ∧ effects.filterMap Effect.sent? = effects'.filterMap Effect.sent? := by
  cases hstep with
  | intro hchange hdrain =>
    cases hstep' with
    | intro hchange' hdrain' =>
      have hchanged := h.changed hc hd hchange hchange'
      obtain ⟨hserved, hmore⟩ := hchanged.drained (hchange.sound hc.toSound)
        (hchange'.sound hd.toSound) hdrain hdrain'
      refine ⟨hserved, ?_⟩
      rw [List.filterMap_append, List.filterMap_append, h.changed_sent hchange hchange', hmore]

end InStep

/-! ### Two runs -/

/-- The same input at whatever time, with the same outcome of a delivery to anybody. -/
structure Occasion.Matches (o o' : Occasion) : Prop where
  input_eq : o'.input = o.input
  reach_eq : o'.reach = o.reach

theorem Ranked.run (h : c.Ranked) (hc : c.Resting) (os : List Occasion) : (c.run os).1.Ranked := by
  induction os generalizing c with
  | nil => exact h
  | cons o os ih => exact ih (h.stepped (hc.stepped o)) (hc.step o)

theorem InStep.run {os os' : List Occasion} (h : InStep c d) (hc : c.Resting) (hd : d.Resting)
    (hflags : c.Ranked) (hflags' : d.Ranked) (hsame : List.Forall₂ Occasion.Matches os os') :
    InStep (c.run os).1 (d.run os').1 ∧
      (c.run os).2.filterMap Effect.sent? = (d.run os').2.filterMap Effect.sent? := by
  induction hsame generalizing c d with
  | nil => exact ⟨h, rfl⟩
  | @cons o o' os os' hfirst hrest ih =>
    have hstep := hc.stepped o
    have hstep' := hd.stepped o'
    rw [run_cons, run_cons, List.filterMap_append, List.filterMap_append]
    rw [hfirst.input_eq, hfirst.reach_eq] at hstep' ⊢
    obtain ⟨hboth, hsent⟩ := h.stepped hflags hflags' hstep hstep'
    obtain ⟨hrun, hmore⟩ := ih hboth (hc.step o) (hd.step ⟨o'.clock, o.reach, o.input⟩)
      (hflags.stepped hstep) (hflags'.stepped hstep')
    exact ⟨hrun, by rw [hsent, hmore]⟩

theorem ranked_create {name : PoolName} {options : PoolOptions} {now : Readings} {e : Event}
    (hcreate : create name options now = .ok (c, e)) : c.Ranked := by
  refine ⟨sound_create hcreate, ?_⟩
  obtain ⟨-, rfl, -⟩ := create_eq_ok hcreate
  exact options.provisioner.expandedLast_stock name now options.size

/-- New coordinators of one size agree, whatever else their options say. -/
theorem inStep_create {name name' : PoolName} {options options' : PoolOptions}
    {now now' : Readings} {e e' : Event} (hcreate : create name options now = .ok (c, e))
    (hcreate' : create name' options' now' = .ok (d, e')) (hsize : options'.size = options.size) :
    InStep c d := by
  obtain ⟨-, rfl, -⟩ := create_eq_ok hcreate
  obtain ⟨-, rfl, -⟩ := create_eq_ok hcreate'
  have hstatuses : SameStatus (options.provisioner.stock name now options.size)
      (options'.provisioner.stock name' now' options'.size) := by
    unfold Provisioner.stock SameStatus
    rw [hsize, List.forall₂_map_left_iff, List.forall₂_map_right_iff]
    exact List.forall₂_same.mpr fun _ _ => rfl
  refine ⟨⟨hstatuses, ?_, rfl, rfl, hstatuses.length_eq.symm⟩, fun _ => rfl, rfl⟩
  simp only [Pool.ofSlots, Provisioner.availableCount_stock, hsize]

/-- The provisioner makes no difference to what a pool does. Two coordinators that were created with
the same size and took up the same inputs, with the same outcomes of deliveries, have slots in the
same status place by place, the same counts, grants, waiting list and lease ids, and have sent the
same requesters responses about the same slots in the same order. The flagged slots of either are
its last ones, so that retiring them first retires the last slots first. -/
theorem create_run_lockstep {name name' : PoolName} {options options' : PoolOptions}
    {now now' : Readings} {e e' : Event} (hcreate : create name options now = .ok (c, e))
    (hcreate' : create name' options' now' = .ok (d, e')) (hsize : options'.size = options.size)
    {os os' : List Occasion} (hsame : List.Forall₂ Occasion.Matches os os') :
    let p := (c.run os).1.pool
    let q := (d.run os').1.pool
    q.slots.map Slot.status = p.slots.map Slot.status ∧ q.free = p.free ∧ q.target = p.target ∧
      q.grants = p.grants ∧ q.queue = p.queue ∧
      (∀ channel : String, ((d.run os').1.leases.get? channel).map Lease.ticket =
        ((c.run os).1.leases.get? channel).map Lease.ticket) ∧
      (d.run os').1.nextLease = (c.run os).1.nextLease ∧
      (d.run os').2.filterMap Effect.sent? = (c.run os).2.filterMap Effect.sent? ∧
      (∃ first last, p.slots = first ++ last ∧ (∀ s ∈ first, s.resource.isExpanded = false) ∧
        ∀ s ∈ last, s.resource.isExpanded = true) ∧
      ∀ count, options.provisioner.shrink p.slots count true =
        retireLast (fun _ => true) p.slots count := by
  have hc := resting_create hcreate
  have hd := resting_create hcreate'
  have hflags := ranked_create hcreate
  obtain ⟨hboth, hsent⟩ := (inStep_create hcreate hcreate' hsize).run hc hd hflags
    (ranked_create hcreate') hsame
  have hranked := (hflags.run hc os).flags
  exact ⟨hboth.pool.statuses.map_eq.symm, hboth.pool.free_eq, hboth.pool.target_eq,
    hboth.pool.grants_eq, hboth.pool.queue_eq, hboth.leases, hboth.nextLease_eq, hsent.symm,
    hranked.exists_suffix, fun count => hranked.shrink_eq options.provisioner count⟩

/-- A pool is cut to one slot, grows to three, of which two are then flagged, and is cut to two
while its first slot is held. The clock of the plain pool shows something else. -/
theorem create_run_lockstep_regrown :
    ∃ c d e e', create ⟨"space", "disk"⟩ ⟨2, none, .custom "farm" [], 1000⟩ default = .ok (c, e) ∧
      create ⟨"space", "disk"⟩ ⟨2, none, .plain, 1000⟩ default = .ok (d, e') ∧
      let inputs : List Message := [.resize 1, .resize 3, .request "a" 0, .resize 2]
      let os := inputs.map fun m => (⟨default, fun _ => true, .message m⟩ : Occasion)
      let late : Readings := (⟨default, 7⟩ : Clock).still
      let os' := inputs.map fun m => (⟨late, fun _ => true, .message m⟩ : Occasion)
      List.Forall₂ Occasion.Matches os os' ∧
        (c.run os).1.pool.slots.map (fun s => s.resource.isExpanded) = [false, true, true] ∧
        (c.run os).1.pool.slots.map Slot.status = [.allocated, .available, .retired] ∧
        (d.run os').1.pool.slots.map Slot.status = [.allocated, .available, .retired] := by
  let c : Coordinator := ⟨⟨"space", "disk"⟩, .custom "farm" [], none,
    .ofSlots ((Provisioner.custom "farm" []).stock ⟨"space", "disk"⟩ default 2), [], 0, []⟩
  have hcreate : create ⟨"space", "disk"⟩ ⟨2, none, .custom "farm" [], 1000⟩ default =
      .ok (c, .started 2 "custom") := rfl
  have hcreate' : create ⟨"space", "disk"⟩ ⟨2, none, .plain, 1000⟩ default = .ok (_, _) := rfl
  refine ⟨c, _, _, _, hcreate, hcreate', ?_⟩
  intro inputs os late os'
  have hsame : List.Forall₂ Occasion.Matches os os' :=
    .cons ⟨rfl, rfl⟩ (.cons ⟨rfl, rfl⟩ (.cons ⟨rfl, rfl⟩ (.cons ⟨rfl, rfl⟩ .nil)))
  have hstatuses := (create_run_lockstep hcreate hcreate' rfl hsame).1
  have hcustom : (c.run os).1.pool.slots.map Slot.status =
      [.allocated, .available, .retired] := by decide +kernel
  exact ⟨hsame, by decide +kernel, hcustom, hstatuses.trans hcustom⟩

end Coordinator

end LeasePool
