import LeasePool.Proofs.Runs

/-!
Possession of a slot. From the step that delivers a grant until the first input that ends its lease,
the slot stays allocated with exactly the resource that was delivered, no other requester is
assigned to it, and it is not handed out again.
-/
namespace LeasePool

/-- The requester and the lease of a delivered grant of the slot at an index. -/
def Effect.handover? (index : Nat) : Effect → Option (String × Nat)
  | .delivery requester (.acquired _ lease resource) true =>
    if resource.index = index then some (requester, lease) else none
  | _ => none

namespace Coordinator

variable {c c' : Coordinator} {l : Lease} {r : Resource} {clock : Readings} {reach : String → Bool}

/-- The inputs that end the lease of a channel, and why it ends. -/
inductive Ends (channel : String) (lease : Nat) : Input → ReleaseReason → Prop where
  | release (only : Option Nat) (honly : ∀ k : Nat, only = some k → k = lease) :
      Ends channel lease (.message (.release channel only)) .released
  | expiry : Ends channel lease (.expiry ⟨channel, lease⟩) .timedOut

/-- Nothing in a run ends the lease of a channel. -/
def Quiet (channel : String) (lease : Nat) (os : List Occasion) : Prop :=
  ∀ o ∈ os, ∀ reason : ReleaseReason, ¬ Ends channel lease o.input reason

/-- The lease is tracked, and its slot is allocated with the resource. -/
structure Holds (c : Coordinator) (l : Lease) (r : Resource) : Prop where
  lease : c.leases.get? (releaseChannel l.requester) = some l
  slot : c.pool.slots[l.index]? = some ⟨r, .allocated⟩

namespace Holds

theorem grant (h : Holds c l r) (hc : c.Sound) : c.pool.grants.get? l.requester = some l.index :=
  (hc.grant_of_lease _ l h.lease).2

theorem index_eq (h : Holds c l r) (hc : c.Sound) : r.index = l.index := hc.pool.index_eq h.slot

theorem knows (h : Holds c l r) (hc : c.Sound) : c.pool.Knows l.requester := by
  apply List.mem_append_left
  by_contra hkey
  have hnone := (Assoc.get?_eq_none_iff l.requester c.pool.grants).mpr hkey
  rw [h.grant hc] at hnone
  cases hnone

/-- The slot that is granted next is another one. -/
theorem index_ne {index : Nat} {s : Slot} (h : Holds c l r) (hfirst : c.pool.IsFirst index s) :
    index ≠ l.index := by
  rintro rfl
  have hs := hfirst.2
  rw [h.slot, Option.some.injEq] at hs
  have hstatus := hfirst.status_eq
  rw [← hs] at hstatus
  cases hstatus

/-! ### Offers -/

theorem granted {index : Nat} {s : Slot} {requester : String} (h : Holds c l r)
    (clock : Readings) (hfirst : c.pool.IsFirst index s) (hne : l.requester ≠ requester) :
    Holds (c.granted clock index requester) l r := by
  constructor
  · rw [granted_leases, if_neg fun heq => hne (releaseChannel_injective heq).symm]
    exact h.lease
  · have hslot : (c.granted clock index requester).pool.slots[l.index]? =
        c.pool.slots[l.index]? :=
      Pool.grant_getElem?_of_ne c.pool (clock.acquired requester) requester (h.index_ne hfirst)
    rw [hslot]
    exact h.slot

theorem of_granted {index : Nat} {s : Slot} (clock : Readings) (requester : String)
    (hfirst : c.pool.IsFirst index s) :
    Holds (c.granted clock index requester) ⟨c.nextLease, index, requester, clock.granted requester⟩
      (s.allocate (clock.acquired requester)).resource := by
  constructor
  · rw [granted_leases, if_pos rfl]
  · exact Pool.grant_getElem?_self (clock.acquired requester) requester hfirst.2

theorem offer {requester : String} {effects : List Effect} (h : Holds c l r) (hc : c.Sound)
    (hnew : ¬ c.pool.Knows requester) (hoffer : Offer clock reach c requester effects c') :
    Holds c' l r ∧ effects.filterMap (Effect.handover? l.index) = [] := by
  cases hoffer with
  | granted index s hfirst hreach =>
    have hne : l.requester ≠ requester := by
      rintro rfl
      exact hnew (h.knows hc)
    have hplace : s.resource.index = index := hc.pool.index_eq hfirst.2
    have hother : ¬ s.resource.index = l.index := by
      rw [hplace]
      exact h.index_ne hfirst
    refine ⟨h.granted clock hfirst hne, ?_⟩
    simp [Effect.handover?, Slot.allocate, hother]
  | refused index s hfirst hreach => exact ⟨⟨h.lease, h.slot⟩, rfl⟩

/-- Serving the waiting list takes nothing from a holder. -/
theorem drained {effects : List Effect} (h : Holds c l r) (hc : c.Sound)
    (hdrain : Drained clock reach c effects c') :
    Holds c' l r ∧ effects.filterMap (Effect.handover? l.index) = [] := by
  induction hdrain with
  | done hrest => exact ⟨h, rfl⟩
  | @serve c c' c'' r' rest effects more hfree hqueue hoffer hmore ih =>
    obtain ⟨hpopped, hnew⟩ := hc.dequeue hqueue
    have hheld : Holds (c.withQueue rest) l r := ⟨h.lease, h.slot⟩
    obtain ⟨hoffered, hnone⟩ := hheld.offer hpopped hnew hoffer
    obtain ⟨hserved, hmore⟩ := ih hoffered (hoffer.sound hpopped hfree hnew)
    rw [List.filterMap_append, hnone, hmore]
    exact ⟨hserved, rfl⟩

/-! ### Changes -/

/-- Ending the lease of another channel touches neither the lease nor its slot. -/
theorem closed {channel : String} {l' : Lease} (h : Holds c l r) (hc : c.Sound)
    (hlease : c.leases.get? channel = some l') (hne : channel ≠ releaseChannel l.requester) :
    Holds (c.closed channel l') l r := by
  obtain ⟨hchannel, hgrant⟩ := hc.grant_of_lease channel l' hlease
  have hrequester : l'.requester ≠ l.requester := fun heq =>
    hne (hchannel.trans (congrArg releaseChannel heq))
  have hindex : l'.index ≠ l.index := by
    intro heq
    rw [heq] at hgrant
    exact hrequester (hc.pool.holder_unique hgrant (h.grant hc))
  have hstill : (c.pool.vacate l'.index l'.requester).grants.get? l.requester =
      some l.index := by
    rw [Pool.vacate, Assoc.get?_erase, if_neg hrequester]
    exact h.grant hc
  constructor
  · rw [closed_leases, if_neg hne]
    exact h.lease
  · rw [Coordinator.closed, Pool.tidy_of_grant hstill,
      Pool.vacate_getElem?_of_ne c.pool l'.requester hindex]
    exact h.slot

theorem cancelWatcher (h : Holds c l r) (lease : Nat) : Holds (c.cancelWatcher lease) l r :=
  ⟨h.lease, h.slot⟩

theorem changed {input : Input} {effects : List Effect} (h : Holds c l r) (hc : c.Sound)
    (hquiet : ∀ reason : ReleaseReason, ¬ Ends (releaseChannel l.requester) l.id input reason)
    (hchange : Changed clock reach c input effects c') : Holds c' l r := by
  cases hchange with
  | released hlease honly hnotes =>
    refine (h.cancelWatcher _).closed (hc.cancelWatcher _) hlease ?_
    rintro rfl
    rw [h.lease, Option.some.injEq] at hlease
    subst hlease
    exact hquiet .released (Ends.release _ honly)
  | expired hlease hnotes =>
    refine h.closed hc hlease ?_
    rintro rfl
    rw [h.lease, Option.some.injEq] at hlease
    subst hlease
    exact hquiet .timedOut Ends.expiry
  | resized hsize hresize hrefit => exact ⟨h.lease, hrefit.held l.index _ h.slot rfl⟩
  | _ => exact ⟨h.lease, h.slot⟩

end Holds

/-- A change hands out nothing. -/
theorem Changed.handovers_eq {input : Input} {effects : List Effect}
    (hchange : Changed clock reach c input effects c') (index : Nat) :
    effects.filterMap (Effect.handover? index) = [] :=
  hchange.filterMap_eq_nil fun
    | .delivery _ (.acquired ..) _, h => nomatch h
    | .delivery _ .cancelled _, _ | .event _, _ | .note _, _ | .answer _, _ => rfl

namespace Holds

theorem stepped {input : Input} {effects : List Effect} (h : Holds c l r) (hc : c.Sound)
    (hquiet : ∀ reason : ReleaseReason, ¬ Ends (releaseChannel l.requester) l.id input reason)
    (hstep : Stepped clock reach c input effects c') :
    Holds c' l r ∧ effects.filterMap (Effect.handover? l.index) = [] := by
  cases hstep with
  | intro hchange hdrain =>
    obtain ⟨hheld, hnone⟩ := (h.changed hc hquiet hchange).drained (hchange.sound hc) hdrain
    rw [List.filterMap_append, hchange.handovers_eq, hnone]
    exact ⟨hheld, rfl⟩

/-- Until something ends the lease, its slot stays as it is and is not handed out again. -/
theorem run (h : Holds c l r) (hc : c.Resting) {os : List Occasion}
    (hquiet : Quiet (releaseChannel l.requester) l.id os) :
    Holds (c.run os).1 l r ∧ (c.run os).2.filterMap (Effect.handover? l.index) = [] := by
  induction os generalizing c with
  | nil => exact ⟨h, rfl⟩
  | cons o os ih =>
    have hfirst := hquiet o List.mem_cons_self
    obtain ⟨hheld, hnone⟩ := h.stepped hc.toSound hfirst (hc.stepped o)
    obtain ⟨hrun, hmore⟩ := ih hheld (hc.step o)
      fun o' ho' => hquiet o' (List.mem_cons_of_mem o ho')
    rw [run_cons, List.filterMap_append, hnone, hmore]
    exact ⟨hrun, rfl⟩

end Holds

/-! ### Handing out a slot -/

/-- A delivered grant: its lease is held afterwards, and its slot was handed out only once. -/
structure Handover (clock : Readings) (effects : List Effect) (c' : Coordinator)
    (requester channel : String) (lease : Nat) (r : Resource) : Prop where
  channel_eq : channel = releaseChannel requester
  holds : Holds c' ⟨lease, r.index, requester, clock.granted requester⟩ r
  once : effects.filterMap (Effect.handover? r.index) = [(requester, lease)]

/-- An offer hands out no slot but one that is held afterwards. -/
theorem Offer.handovers_eq_nil_or {requester : String} {effects : List Effect} (hc : c.Sound)
    (hoffer : Offer clock reach c requester effects c') (index : Nat) :
    effects.filterMap (Effect.handover? index) = [] ∨
      ∃ l r, l.index = index ∧ Holds c' l r := by
  cases hoffer with
  | granted i s hfirst hreach =>
    have hplace : s.resource.index = i := hc.pool.index_eq hfirst.2
    by_cases hi : i = index
    · exact Or.inr ⟨_, _, hi, Holds.of_granted clock requester hfirst⟩
    · left
      rw [← hplace] at hi
      simp [Effect.handover?, Slot.allocate, hi]
  | refused i s hfirst hreach => exact Or.inl rfl

theorem Offer.handover {requester q channel : String} {lease : Nat} {effects : List Effect}
    (hc : c.Sound) (hoffer : Offer clock reach c requester effects c')
    (hmem : .delivery q (.acquired channel lease r) true ∈ effects) :
    Handover clock effects c' q channel lease r := by
  cases hoffer with
  | granted index s hfirst hreach =>
    have hplace : s.resource.index = index := hc.pool.index_eq hfirst.2
    have hindex : (s.allocate (clock.acquired requester)).resource.index = index := hplace
    simp only [List.mem_cons, List.not_mem_nil, or_false, reduceCtorEq, Effect.delivery.injEq,
      Response.acquired.injEq, and_true] at hmem
    obtain ⟨rfl, rfl, rfl, rfl⟩ := hmem
    refine ⟨rfl, ?_, ?_⟩
    · rw [hindex]
      exact Holds.of_granted clock q hfirst
    · simp [Effect.handover?]
  | refused index s hfirst hreach => simp at hmem

theorem Drained.handover {q channel : String} {lease : Nat} {effects : List Effect}
    (hc : c.Sound) (hdrain : Drained clock reach c effects c')
    (hmem : .delivery q (.acquired channel lease r) true ∈ effects) :
    Handover clock effects c' q channel lease r := by
  induction hdrain with
  | done hrest => cases hmem
  | serve hfree hqueue hoffer hmore ih =>
    obtain ⟨hpopped, hnew⟩ := hc.dequeue hqueue
    have hsound := hoffer.sound hpopped hfree hnew
    rcases List.mem_append.mp hmem with hfirst | hlater
    · obtain ⟨hchannel, hheld, honce⟩ := hoffer.handover hpopped hfirst
      obtain ⟨hserved, hnone⟩ := hheld.drained hsound hmore
      refine ⟨hchannel, hserved, ?_⟩
      rw [List.filterMap_append, honce]
      exact congrArg ([(q, lease)] ++ ·) hnone
    · obtain ⟨hchannel, hserved, honce⟩ := ih hsound hlater
      refine ⟨hchannel, hserved, ?_⟩
      rcases hoffer.handovers_eq_nil_or hpopped r.index with hnone | ⟨l', r', hindex, hheld⟩
      · rw [List.filterMap_append, hnone, honce]
        rfl
      · -- the slot is held when the later grant is made
        have hnone := (hheld.drained hsound hmore).2
        rw [hindex, honce] at hnone
        cases hnone

theorem Changed.not_acquired {input : Input} {effects : List Effect}
    (hchange : Changed clock reach c input effects c') (q channel : String) (lease : Nat)
    (r : Resource) : .delivery q (.acquired channel lease r) true ∉ effects := by
  intro hmem
  have hnone := hchange.not_isOffer _ hmem
  cases hnone

theorem Stepped.handover {q channel : String} {lease : Nat} {input : Input}
    {effects : List Effect} (hc : c.Sound) (hstep : Stepped clock reach c input effects c')
    (hmem : .delivery q (.acquired channel lease r) true ∈ effects) :
    Handover clock effects c' q channel lease r := by
  cases hstep with
  | intro hchange hdrain =>
    have hserved := (List.mem_append.mp hmem).resolve_left (hchange.not_acquired q channel lease r)
    obtain ⟨hchannel, hheld, honce⟩ := hdrain.handover (hchange.sound hc) hserved
    refine ⟨hchannel, hheld, ?_⟩
    rw [List.filterMap_append, hchange.handovers_eq, honce]
    rfl

/-- From the step that delivers a grant on, as long as nothing ends its lease, the slot of the grant
is allocated with the resource that was delivered, only the requester is assigned to it, and it is
handed out to nobody else. -/
theorem create_run_holds {name : PoolName} {options : PoolOptions} {now : Readings} {e : Event}
    (hcreate : create name options now = .ok (c, e)) (before : List Occasion) (o : Occasion)
    {requester channel : String} {lease : Nat} {r : Resource}
    (hgrant : .delivery requester (.acquired channel lease r) true ∈
      ((c.run before).1.step o.clock o.reach o.input).2)
    {quiet : List Occasion} (hquiet : Quiet channel lease quiet) :
    let granting := (c.run before).1.step o.clock o.reach o.input
    let pool := (granting.1.run quiet).1.pool
    pool.slots[r.index]? = some ⟨r, .allocated⟩ ∧
      pool.grants.get? requester = some r.index ∧
      (∀ other, pool.grants.get? other = some r.index → other = requester) ∧
      (granting.2 ++ (granting.1.run quiet).2).filterMap (Effect.handover? r.index) =
        [(requester, lease)] := by
  have hbefore := (resting_create hcreate).run before
  have hgranting := hbefore.step o
  obtain ⟨rfl, hheld, honce⟩ := (hbefore.stepped o).handover hbefore.toSound hgrant
  obtain ⟨hstill, hnone⟩ := hheld.run hgranting hquiet
  have hsound := (hgranting.run quiet).toSound
  refine ⟨hstill.slot, hstill.grant hsound, ?_, ?_⟩
  · exact fun other hother => hsound.pool.holder_unique hother (hstill.grant hsound)
  · rw [List.filterMap_append, honce]
    exact congrArg ([(requester, lease)] ++ ·) hnone

/-- A pool of two slots is resized to one while the first slot is held. -/
theorem create_run_holds_resized :
    ∃ c e r, create ⟨"space", "disk"⟩ ⟨2, none, .plain, 1000⟩ default = .ok (c, e) ∧
      .delivery "a" (.acquired (releaseChannel "a") 0 r) true ∈
        (c.step default (fun _ => true) (.message (.request "a" 0))).2 ∧
      ((c.step default (fun _ => true) (.message (.request "a" 0))).1.run
        [⟨default, fun _ => true, .message (.resize 1)⟩]).1.pool.slots[r.index]? =
          some ⟨r, .allocated⟩ := by
  have hquiet : Quiet (releaseChannel "a") 0 [⟨default, fun _ => true, .message (.resize 1)⟩] := by
    intro o ho reason hends
    rw [List.mem_singleton.mp ho] at hends
    cases hends
  have hcreate : create ⟨"space", "disk"⟩ ⟨2, none, .plain, 1000⟩ default = .ok (_, _) := rfl
  refine ⟨_, _, _, hcreate, List.mem_cons_of_mem _ List.mem_cons_self, ?_⟩
  exact (create_run_holds hcreate [] ⟨default, fun _ => true, .message (.request "a" 0)⟩
    (List.mem_cons_of_mem _ List.mem_cons_self) hquiet).1

end Coordinator

end LeasePool
