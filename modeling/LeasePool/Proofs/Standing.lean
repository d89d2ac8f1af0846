import LeasePool.Proofs.Lifetimes

/-!
How a requester stands with a coordinator: it holds a lease, waits for one, or neither. One step
gives it a lease only with a delivered response, and only if it waited or asks now; it starts to
wait only when it asks, and a withdrawal leaves it neither waiting nor granted anything.
-/
namespace LeasePool.Coordinator

variable {c c' : Coordinator} {clock : Readings} {reach : String → Bool} {input : Input}
  {effects : List Effect} {q channel : String} {lease : Nat} {l : Lease} {r : Resource}

/-- The requester is on the waiting list. -/
def Waits (c : Coordinator) (q : String) : Prop := q ∈ c.pool.queue.map Pending.requester

instance (c : Coordinator) (q : String) : Decidable (c.Waits q) :=
  inferInstanceAs (Decidable (q ∈ _))

/-! ### Waiting -/

theorem Changed.waits (hchange : Changed clock reach c input effects c') (h : c'.Waits q) :
    c.Waits q ∨ ∃ priority, input = .message (.request q priority) := by
  cases hchange with
  | admitted requester priority hnew hqueue hfree | queued requester priority hnew hwait =>
    rw [Waits, withQueue, List.map_append] at h
    refine (List.mem_append.mp h).imp_right fun hlast => ⟨priority, ?_⟩
    rw [List.mem_singleton.mp hlast]
  | withdrawn requester hwaits =>
    rw [Waits, withQueue, Pool.map_requester_eraseP] at h
    exact Or.inl (List.mem_of_mem_erase h)
  | released hlease honly hnotes | expired hlease hnotes =>
    rw [Waits, closed, Pool.tidy_queue] at h
    exact Or.inl h
  | _ => exact Or.inl h

theorem Drained.waits (hdrain : Drained clock reach c effects c') (h : c'.Waits q) :
    c.Waits q := by
  rw [Waits, ← hdrain.addressees_append]
  exact List.mem_append_right _ h

/-- Only a request puts somebody on the waiting list. -/
theorem Stepped.waits (hstep : Stepped clock reach c input effects c') (h : c'.Waits q) :
    c.Waits q ∨ ∃ priority, input = .message (.request q priority) := by
  cases hstep with
  | intro hchange hdrain => exact hchange.waits (hdrain.waits h)

/-! ### Responses -/

theorem Drained.waits_of_delivery {delivered : Bool} {response : Response}
    (hdrain : Drained clock reach c effects c')
    (hmem : .delivery q response delivered ∈ effects) : c.Waits q := by
  rw [Waits, ← hdrain.addressees_append]
  exact List.mem_append_left _ (List.mem_filterMap.mpr ⟨_, hmem, rfl⟩)

theorem Drained.not_cancelled {delivered : Bool} (hdrain : Drained clock reach c effects c') :
    .delivery q .cancelled delivered ∉ effects := by
  induction hdrain with
  | done hrest => exact List.not_mem_nil
  | serve hfree hqueue hoffer hmore ih =>
    rw [List.mem_append, not_or]
    refine ⟨?_, ih⟩
    cases hoffer <;> simp

theorem Changed.cancelled {delivered : Bool} (hchange : Changed clock reach c input effects c')
    (hmem : .delivery q .cancelled delivered ∈ effects) :
    input = .message (.cancel q) ∧ c.Waits q := by
  cases hchange with
  | withdrawn requester hwaits =>
    cases hreach : reach requester <;> simp [hreach] at hmem <;> rw [hmem.1] <;>
      exact ⟨rfl, hwaits⟩
  | released hlease honly hnotes | expired hlease hnotes => simp [closing] at hmem
  | _ => simp at hmem

/-- Only a withdrawal of a waiting request is answered so. -/
theorem Stepped.cancelled {delivered : Bool} (hstep : Stepped clock reach c input effects c')
    (hmem : .delivery q .cancelled delivered ∈ effects) :
    input = .message (.cancel q) ∧ c.Waits q := by
  cases hstep with
  | intro hchange hdrain =>
    exact hchange.cancelled ((List.mem_append.mp hmem).resolve_right hdrain.not_cancelled)

/-- Whoever is granted a slot waited for it or has just asked. -/
theorem Stepped.waits_of_acquired {delivered : Bool}
    (hstep : Stepped clock reach c input effects c')
    (hmem : .delivery q (.acquired channel lease r) delivered ∈ effects) :
    c.Waits q ∨ ∃ priority, input = .message (.request q priority) := by
  cases hstep with
  | intro hchange hdrain =>
    rcases List.mem_append.mp hmem with hfirst | hlater
    · have hnone := hchange.not_isOffer _ hfirst
      cases hnone
    · exact hchange.waits (hdrain.waits_of_delivery hlater)

/-- The lease that a response announces is a new one. -/
theorem Stepped.lease_of_acquired {delivered : Bool}
    (hstep : Stepped clock reach c input effects c')
    (hmem : .delivery q (.acquired channel lease r) delivered ∈ effects) :
    c.nextLease ≤ lease ∧ lease < c'.nextLease := by
  have hoffered : lease ∈ effects.filterMap Effect.offeredLease? :=
    List.mem_filterMap.mpr ⟨_, hmem, rfl⟩
  have hrange := hstep.range_offeredLeases
  have hnodup := List.nodup_range (n := c'.nextLease)
  rw [← hrange] at hnodup
  constructor
  · by_contra hlt
    exact (List.nodup_append.mp hnodup).2.2 lease (List.mem_range.mpr (Nat.lt_of_not_le hlt))
      lease hoffered rfl
  · rw [← List.mem_range, ← hrange]
    exact List.mem_append_right _ hoffered

/-- After a withdrawal the requester neither waits nor has been granted anything. -/
theorem Stepped.withdrawn (hc : c.Sound)
    (hstep : Stepped clock reach c (.message (.cancel q)) effects c') :
    ¬ c'.Waits q ∧ ∀ channel lease r delivered,
      .delivery q (.acquired channel lease r) delivered ∉ effects := by
  cases hstep with
  | @intro first more c₁ c' hchange hdrain =>
    have hgone : ¬ c₁.Waits q := by
      cases hchange with
      | withdrawn requester hwaits =>
        rw [Waits, withQueue, Pool.map_requester_eraseP]
        exact hc.pool.known_nodup.of_append_right.not_mem_erase
      | notWaiting requester hgone => exact hgone
    refine ⟨fun h => hgone (hdrain.waits h), fun channel lease r delivered hmem => ?_⟩
    rcases List.mem_append.mp hmem with hfirst | hlater
    · have hnone := hchange.not_isOffer _ hfirst
      cases hnone
    · exact hgone (hdrain.waits_of_delivery hlater)

theorem Stepped.answers (hstep : Stepped clock reach c (.message .status) effects c') :
    ∃ answer, .answer answer ∈ effects := by
  cases hstep with
  | intro hchange hdrain =>
    cases hchange with
    | status => exact ⟨_, List.mem_append_left _ (List.mem_cons_of_mem _ List.mem_cons_self)⟩

/-! ### Messages ahead -/

/-- What a message makes of the question whether a requester waits. -/
def leavesWaiting (q : String) (waits : Prop) : Message → Prop
  | .request requester _ => requester = q ∨ waits
  | .cancel requester => requester ≠ q ∧ waits
  | _ => waits

/-- Whether a requester can wait once some messages have been handled. -/
def MayWait (c : Coordinator) (q : String) (ms : List Message) : Prop :=
  ms.foldl (leavesWaiting q) (c.Waits q)

theorem leavesWaiting_mono {waits waits' : Prop} (h : waits → waits') (m : Message) :
    leavesWaiting q waits m → leavesWaiting q waits' m := by
  cases m with
  | request requester priority => exact Or.imp_right h
  | cancel requester => exact And.imp_right h
  | _ => exact h

theorem foldl_leavesWaiting_mono {waits waits' : Prop} (h : waits → waits') (ms : List Message) :
    ms.foldl (leavesWaiting q) waits → ms.foldl (leavesWaiting q) waits' := by
  induction ms generalizing waits waits' with
  | nil => exact h
  | cons m ms ih => exact ih (leavesWaiting_mono h m)

theorem mayWait_concat (c : Coordinator) (ms : List Message) (m : Message) :
    c.MayWait q (ms ++ [m]) ↔ leavesWaiting q (c.MayWait q ms) m := by
  rw [MayWait, List.foldl_append]
  rfl

theorem not_mayWait_concat_cancel (c : Coordinator) (ms : List Message) :
    ¬ c.MayWait q (ms ++ [.cancel q]) := by
  rw [mayWait_concat]
  exact fun h => h.1 rfl

/-- Only a request makes a requester wait that would not wait otherwise. -/
theorem not_mayWait_concat {ms : List Message} {m : Message} (h : ¬ c.MayWait q ms)
    (hm : ∀ priority, m ≠ .request q priority) : ¬ c.MayWait q (ms ++ [m]) := by
  rw [mayWait_concat]
  cases m with
  | request requester priority =>
    rintro (rfl | hwaits)
    · exact hm priority rfl
    · exact h hwaits
  | cancel requester => exact fun hwaits => h hwaits.2
  | _ => exact h

theorem Stepped.leavesWaiting {m : Message} (hc : c.Sound)
    (hstep : Stepped clock reach c (.message m) effects c') (h : c'.Waits q) :
    Coordinator.leavesWaiting q (c.Waits q) m := by
  have hwaits := hstep.waits h
  cases m with
  | request requester priority =>
    refine hwaits.symm.imp_left fun ⟨priority', heq⟩ => ?_
    injection heq with heq
    injection heq
  | cancel requester =>
    refine ⟨?_, hwaits.resolve_right nofun⟩
    rintro rfl
    exact (hstep.withdrawn hc).1 h
  | _ => exact hwaits.resolve_right nofun

/-- Handling the first of some messages answers nothing new about the end. -/
theorem Stepped.mayWait {m : Message} {ms : List Message} (hc : c.Sound)
    (hstep : Stepped clock reach c (.message m) effects c') (h : c'.MayWait q ms) :
    c.MayWait q (m :: ms) :=
  foldl_leavesWaiting_mono (hstep.leavesWaiting hc) ms h

theorem Stepped.mayWait_of_expiry {e : Expiry} {ms : List Message}
    (hstep : Stepped clock reach c (.expiry e) effects c') (h : c'.MayWait q ms) :
    c.MayWait q ms :=
  foldl_leavesWaiting_mono (fun hwaits => (hstep.waits hwaits).resolve_right nofun) ms h

/-! ### Leases -/

theorem Stepped.nextLease_le (hstep : Stepped clock reach c input effects c') :
    c.nextLease ≤ c'.nextLease := by
  have hlength := congrArg List.length hstep.range_offeredLeases
  simp only [List.length_append, List.length_range] at hlength
  omega

theorem Changed.lease_eq (hchange : Changed clock reach c input effects c')
    (h : c'.leases.get? channel = some l) : c.leases.get? channel = some l := by
  cases hchange with
  | released hlease honly hnotes | expired hlease hnotes =>
    rw [closed_leases] at h
    split at h
    · cases h
    · exact h
  | _ => exact h

theorem Offer.lease_cases {requester : String}
    (hoffer : Offer clock reach c requester effects c')
    (h : c'.leases.get? channel = some l) :
    c.leases.get? channel = some l ∨
      ∃ r, .delivery l.requester (.acquired channel l.id r) true ∈ effects := by
  cases hoffer with
  | granted index s hfirst hreach =>
    rw [granted_leases] at h
    split at h
    case isTrue hchannel =>
      rw [← Option.some.inj h, ← hchannel]
      exact Or.inr ⟨_, List.mem_cons_self⟩
    case isFalse => exact Or.inl h
  | refused index s hfirst hreach => exact Or.inl h

theorem Drained.lease_cases (hdrain : Drained clock reach c effects c')
    (h : c'.leases.get? channel = some l) :
    c.leases.get? channel = some l ∨
      ∃ r, .delivery l.requester (.acquired channel l.id r) true ∈ effects := by
  induction hdrain with
  | done hrest => exact Or.inl h
  | serve hfree hqueue hoffer hmore ih =>
    rcases ih h with hbefore | ⟨r, hr⟩
    · exact (hoffer.lease_cases hbefore).imp_right fun ⟨r, hr⟩ =>
        ⟨r, List.mem_append_left _ hr⟩
    · exact Or.inr ⟨r, List.mem_append_right _ hr⟩

/-- A lease is an old one, or its holder has just been told of it. -/
theorem Stepped.lease_cases (hstep : Stepped clock reach c input effects c')
    (h : c'.leases.get? channel = some l) :
    c.leases.get? channel = some l ∨
      ∃ r, .delivery l.requester (.acquired channel l.id r) true ∈ effects := by
  cases hstep with
  | intro hchange hdrain =>
    rcases hdrain.lease_cases h with hbefore | ⟨r, hr⟩
    · exact Or.inl (hchange.lease_eq hbefore)
    · exact Or.inr ⟨r, List.mem_append_right _ hr⟩

theorem Sound.exists_holds (hc : c.Sound) (h : c.leases.get? channel = some l) :
    ∃ r, Holds c l r := by
  obtain ⟨hchannel, hgrant⟩ := hc.grant_of_lease channel l h
  obtain ⟨s, hs, hstatus⟩ := hc.pool.exists_slot hgrant
  obtain ⟨r, status⟩ := s
  refine ⟨r, ⟨hchannel ▸ h, ?_⟩⟩
  rw [hs]
  exact congrArg (fun status => some (Slot.mk r status)) hstatus

/-- An input that ends a lease leaves nothing under its id. -/
theorem Stepped.ended {reason : ReleaseReason} (hc : c.Sound)
    (hstep : Stepped clock reach c input effects c') (h : c.leases.get? channel = some l)
    (hends : Ends channel l.id input reason) : Spent c' l.id := by
  obtain ⟨r, hheld⟩ := hc.exists_holds h
  rw [(hc.grant_of_lease channel l h).1] at hends
  exact (hheld.ended hc hends hstep).2

end LeasePool.Coordinator
