import LeasePool.Proofs.Possession

/-!
The life of a lease. Lease ids count the attempts to grant a slot, so that no id is given out twice.
A lease goes on until the first input that ends it; that step reports one release, and from then on
the id means nothing. It makes no difference to the coordinator whether a lease is given back or
runs out.
-/
namespace LeasePool

namespace Effect

/-- The lease of a delivered grant. -/
def deliveredLease? : Effect → Option Nat
  | .delivery _ (.acquired _ lease _) true => some lease
  | _ => none

/-- The requester, the slot and the reason of a reported release. -/
def released? : Effect → Option (String × Nat × ReleaseReason)
  | .event (.released requester index reason _) => some (requester, index, reason)
  | _ => none

/-- The effect with another reason, if it reports a release. -/
def withReason (reason : ReleaseReason) : Effect → Effect
  | .event (.released requester index _ held) => .event (.released requester index reason held)
  | effect => effect

theorem deliveredLease?_sublist (effects : List Effect) :
    List.Sublist (effects.filterMap deliveredLease?) (effects.filterMap offeredLease?) := by
  induction effects with
  | nil => exact List.Sublist.slnil
  | cons effect rest ih =>
    rcases effect with ⟨requester, ⟨channel, lease, r⟩ | _, _ | _⟩ | _ | _ | _
    · exact List.Sublist.cons lease ih
    · exact List.Sublist.cons_cons lease ih
    all_goals exact ih

end Effect

namespace Coordinator

variable {c c' : Coordinator} {l : Lease} {r : Resource} {clock : Readings} {reach : String → Bool}

/-! ### Lease ids -/

theorem Drained.range_offeredLeases {effects : List Effect}
    (hdrain : Drained clock reach c effects c') :
    List.range c.nextLease ++ effects.filterMap Effect.offeredLease? =
      List.range c'.nextLease := by
  induction hdrain with
  | done hrest => exact List.append_nil _
  | @serve c c' c'' request rest effects more hfree hqueue hoffer hmore ih =>
    have hnext : List.range c.nextLease ++ effects.filterMap Effect.offeredLease? =
        List.range c'.nextLease := by
      cases hoffer <;> exact List.range_succ.symm
    rw [List.filterMap_append, ← List.append_assoc, hnext, ih]

theorem Stepped.range_offeredLeases {input : Input} {effects : List Effect}
    (hstep : Stepped clock reach c input effects c') :
    List.range c.nextLease ++ effects.filterMap Effect.offeredLease? =
      List.range c'.nextLease := by
  cases hstep with
  | @intro first more c₁ c' hchange hdrain =>
    have hsame : c₁.nextLease = c.nextLease := by cases hchange <;> rfl
    have hserved := hdrain.range_offeredLeases
    rw [hsame] at hserved
    rw [List.filterMap_append, hchange.not_offered, List.nil_append, hserved]

/-- The attempts of a run are numbered in order and without gaps. -/
theorem Resting.range_offeredLeases (h : c.Resting) (os : List Occasion) :
    List.range c.nextLease ++ (c.run os).2.filterMap Effect.offeredLease? =
      List.range (c.run os).1.nextLease := by
  induction os generalizing c with
  | nil => exact List.append_nil _
  | cons o os ih =>
    rw [run_cons, List.filterMap_append, ← List.append_assoc,
      (h.stepped o).range_offeredLeases, ih (h.step o)]

theorem Resting.deliveredLeases_increasing (h : c.Resting) (os : List Occasion) :
    ((c.run os).2.filterMap Effect.deliveredLease?).Pairwise (· < ·) := by
  have hall := List.pairwise_lt_range (n := (c.run os).1.nextLease)
  rw [← h.range_offeredLeases os] at hall
  exact ((List.pairwise_append.mp hall).2.1).sublist (Effect.deliveredLease?_sublist _)

/-! ### Reported releases -/

theorem Drained.not_released {effects : List Effect}
    (hdrain : Drained clock reach c effects c') : effects.filterMap Effect.released? = [] := by
  induction hdrain with
  | done hrest => rfl
  | @serve c c' c'' request rest effects more hfree hqueue hoffer hmore ih =>
    have hfirst : effects.filterMap Effect.released? = [] := by cases hoffer <;> rfl
    rw [List.filterMap_append, hfirst, ih]
    rfl

/-- While a lease is held, no release of its requester is reported. -/
theorem Holds.changed_released {input : Input} {effects : List Effect} (h : Holds c l r)
    (hc : c.Sound)
    (hquiet : ∀ reason : ReleaseReason, ¬ Ends (releaseChannel l.requester) l.id input reason)
    (hchange : Changed clock reach c input effects c') :
    ∀ report ∈ effects.filterMap Effect.released?, report.1 ≠ l.requester := by
  -- a lease of the requester is this one, for it is found on the same channel
  have hsame {channel : String} {l' : Lease} (hlease : c.leases.get? channel = some l')
      (heq : l'.requester = l.requester) : channel = releaseChannel l.requester ∧ l' = l := by
    have hchannel := (hc.grant_of_lease channel l' hlease).1
    rw [heq] at hchannel
    rw [hchannel, h.lease, Option.some.injEq] at hlease
    exact ⟨hchannel, hlease.symm⟩
  cases hchange with
  | @released channel only l' notes hlease honly hnotes =>
    rw [List.filterMap_cons_none rfl, filterMap_closing fun _ => rfl]
    intro report hreport heq
    rw [List.mem_singleton.mp hreport] at heq
    obtain ⟨rfl, rfl⟩ := hsame hlease heq
    exact hquiet .released (Ends.release only honly)
  | @expired channel l' notes hlease hnotes =>
    rw [filterMap_closing fun _ => rfl]
    intro report hreport heq
    rw [List.mem_singleton.mp hreport] at heq
    obtain ⟨rfl, rfl⟩ := hsame hlease heq
    exact hquiet .timedOut Ends.expiry
  | withdrawn requester hwaits =>
    intro report hreport
    cases hreach : reach requester <;> rw [hreach] at hreport <;> cases hreport
  | _ =>
    intro report hreport
    cases hreport

theorem Holds.stepped_released {input : Input} {effects : List Effect} (h : Holds c l r)
    (hc : c.Sound)
    (hquiet : ∀ reason : ReleaseReason, ¬ Ends (releaseChannel l.requester) l.id input reason)
    (hstep : Stepped clock reach c input effects c') :
    ∀ report ∈ effects.filterMap Effect.released?, report.1 ≠ l.requester := by
  cases hstep with
  | intro hchange hdrain =>
    rw [List.filterMap_append, hdrain.not_released, List.append_nil]
    exact h.changed_released hc hquiet hchange

theorem Holds.run_released (h : Holds c l r) (hc : c.Resting) {os : List Occasion}
    (hquiet : Quiet (releaseChannel l.requester) l.id os) :
    ∀ report ∈ (c.run os).2.filterMap Effect.released?, report.1 ≠ l.requester := by
  induction os generalizing c with
  | nil =>
    intro report hreport
    cases hreport
  | cons o os ih =>
    have hfirst := hquiet o List.mem_cons_self
    have hstep := hc.stepped o
    have hheld := (h.stepped hc.toSound hfirst hstep).1
    have hmore := ih hheld (hc.step o) fun o' ho' => hquiet o' (List.mem_cons_of_mem o ho')
    have hnone := h.stepped_released hc.toSound hfirst hstep
    intro report hreport
    rw [run_cons, List.filterMap_append] at hreport
    rcases List.mem_append.mp hreport with hnow | hlater
    · exact hnone report hnow
    · exact hmore report hlater

/-! ### Spent ids -/

/-- An id was given to a lease that has ended. -/
structure Spent (c : Coordinator) (lease : Nat) : Prop where
  lt : lease < c.nextLease
  gone : ∀ (channel : String) (l : Lease), c.leases.get? channel = some l → l.id ≠ lease

/-- The inputs that name a lease. -/
inductive Names (lease : Nat) : Input → Prop where
  | release (channel : String) : Names lease (.message (.release channel (some lease)))
  | expiry (channel : String) : Names lease (.expiry ⟨channel, lease⟩)

namespace Spent

variable {lease : Nat}

theorem offer {requester : String} {effects : List Effect} (h : Spent c lease)
    (hoffer : Offer clock reach c requester effects c') : Spent c' lease := by
  cases hoffer with
  | granted index s hfirst hreach =>
    refine ⟨Nat.lt_succ_of_lt h.lt, fun channel l hl => ?_⟩
    rw [granted_leases] at hl
    split at hl
    · rw [← Option.some.inj hl]
      exact Nat.ne_of_gt h.lt
    · exact h.gone channel l hl
  | refused index s hfirst hreach => exact ⟨Nat.lt_succ_of_lt h.lt, h.gone⟩

theorem drained {effects : List Effect} (h : Spent c lease)
    (hdrain : Drained clock reach c effects c') : Spent c' lease := by
  induction hdrain with
  | done hrest => exact h
  | @serve c c' c'' request rest effects more hfree hqueue hoffer hmore ih =>
    have hpopped : Spent (c.withQueue rest) lease := ⟨h.lt, h.gone⟩
    exact ih (hpopped.offer hoffer)

theorem closed (h : Spent c lease) (channel : String) (l : Lease) :
    Spent (c.closed channel l) lease := by
  refine ⟨h.lt, fun other l' hl' => ?_⟩
  rw [closed_leases] at hl'
  split at hl'
  · cases hl'
  · exact h.gone other l' hl'

theorem stepped {input : Input} {effects : List Effect} (h : Spent c lease)
    (hstep : Stepped clock reach c input effects c') : Spent c' lease := by
  cases hstep with
  | intro hchange hdrain =>
    refine Spent.drained ?_ hdrain
    cases hchange with
    | @released channel only l notes hlease honly hnotes =>
      have hcancelled : Spent (c.cancelWatcher l.id) lease := ⟨h.lt, h.gone⟩
      exact hcancelled.closed channel l
    | expired hlease hnotes => exact h.closed _ _
    | _ => exact ⟨h.lt, h.gone⟩

theorem run (h : Spent c lease) (hc : c.Resting) (os : List Occasion) :
    Spent (c.run os).1 lease := by
  induction os generalizing c with
  | nil => exact h
  | cons o os ih => exact ih (h.stepped (hc.stepped o)) (hc.step o)

/-- An input that names a lease that has ended changes nothing. -/
theorem step_eq {input : Input} (h : Spent c lease) (hnames : Names lease input) (clock : Readings)
    (reach : String → Bool) : (c.step clock reach input).1 = c := by
  cases hnames with
  | release channel =>
    simp only [Coordinator.step, handle, Coordinator.release]
    cases hlease : c.leases.get? channel with
    | none => rfl
    | some l =>
      have hstale : (some lease).any (· ≠ l.id) = true := by
        simpa using (h.gone channel l hlease).symm
      simp only [hstale, if_true]
  | expiry channel =>
    simp only [Coordinator.step, Coordinator.expire]
    cases hlease : c.leases.get? channel with
    | none => rfl
    | some l => simp only [h.gone channel l hlease, if_false]

end Spent

/-- Taking a lease off its channel spends its id. -/
theorem Sound.spent_closed {channel : String} (hc : c.Sound)
    (hlease : c.leases.get? channel = some l) : Spent (c.closed channel l) l.id := by
  refine ⟨hc.lease_lt channel l hlease, fun other l' hl' hid => ?_⟩
  rw [closed_leases] at hl'
  split at hl'
  case isTrue => cases hl'
  case isFalse hne => exact hne (hc.lease_unique channel other l l' hlease hl' hid.symm)

/-- An input that ends a held lease reports its release, once, and spends its id. -/
theorem Holds.ended {input : Input} {reason : ReleaseReason} {effects : List Effect}
    (h : Holds c l r) (hc : c.Sound)
    (hends : Ends (releaseChannel l.requester) l.id input reason)
    (hstep : Stepped clock reach c input effects c') :
    effects.filterMap Effect.released? = [(l.requester, l.index, reason)] ∧ Spent c' l.id := by
  cases hstep with
  | intro hchange hdrain =>
    rw [List.filterMap_append, hdrain.not_released, List.append_nil]
    cases hends with
    | release only honly =>
      cases hchange with
      | released hlease hmeant hnotes =>
        rw [h.lease, Option.some.injEq] at hlease
        subst hlease
        have hspent := (hc.cancelWatcher l.id).spent_closed h.lease
        rw [List.filterMap_cons_none rfl, filterMap_closing fun _ => rfl]
        exact ⟨rfl, hspent.drained hdrain⟩
      | strayRelease _ _ n hstray hn =>
        obtain ⟨k, hk, hne⟩ := hstray l h.lease
        exact absurd (honly k hk) hne
    | expiry =>
      generalize hid : l.id = lease at hchange
      cases hchange with
      | expired hlease hnotes =>
        rw [h.lease, Option.some.injEq] at hlease
        subst hlease
        rw [filterMap_closing fun _ => rfl]
        exact ⟨rfl, (hc.spent_closed h.lease).drained hdrain⟩
      | strayExpiry _ hstray => exact absurd hid (hstray l h.lease)

/-! ### Giving back and running out -/

theorem startLease_cancelWatcher (c : Coordinator) (clock : Readings) {lease other : Nat}
    (hne : lease ≠ other) (index : Nat) (requester : String) :
    (c.cancelWatcher other).startLease clock lease index requester =
      (c.startLease clock lease index requester).cancelWatcher other := by
  unfold startLease cancelWatcher
  cases c.leaseTimeout with
  | none => rfl
  | some timeout => simp [hne]

theorem Offer.cancelWatcher {requester : String} {effects : List Effect} {lease : Nat}
    (hlt : lease < c.nextLease) (hoffer : Offer clock reach c requester effects c') :
    Offer clock reach (c.cancelWatcher lease) requester effects (c'.cancelWatcher lease) := by
  cases hoffer with
  | granted index s hfirst hreach =>
    have hcommute := startLease_cancelWatcher
      { c with
        pool := c.pool.grant (clock.acquired requester) index requester
        nextLease := c.nextLease + 1 }
      clock (Nat.ne_of_gt hlt) index requester
    unfold Coordinator.granted
    rw [← hcommute]
    exact Offer.granted index s hfirst hreach
  | refused index s hfirst hreach => exact Offer.refused index s hfirst hreach

/-- Serving the waiting list leaves the timers of earlier leases alone. -/
theorem Drained.cancelWatcher {effects : List Effect} {lease : Nat} (hlt : lease < c.nextLease)
    (hdrain : Drained clock reach c effects c') :
    Drained clock reach (c.cancelWatcher lease) effects (c'.cancelWatcher lease) := by
  induction hdrain with
  | done hrest => exact Drained.done hrest
  | @serve c c' c'' request rest effects more hfree hqueue hoffer hmore ih =>
    have hnext : lease < c'.nextLease := by
      rw [hoffer.nextLease_eq]
      exact Nat.lt_succ_of_lt hlt
    have hoffered : Offer clock reach ((c.cancelWatcher lease).withQueue rest) request.requester
        effects (c'.cancelWatcher lease) := Offer.cancelWatcher (c := c.withQueue rest) hlt hoffer
    exact Drained.serve hfree hqueue hoffered (ih hnext)

theorem Drained.map_withReason {effects : List Effect} (hdrain : Drained clock reach c effects c')
    (reason : ReleaseReason) : effects.map (Effect.withReason reason) = effects := by
  induction hdrain with
  | done hrest => rfl
  | @serve c c' c'' request rest effects more hfree hqueue hoffer hmore ih =>
    have hfirst : effects.map (Effect.withReason reason) = effects := by cases hoffer <;> rfl
    rw [List.map_append, hfirst, ih]

theorem map_withReason_closing (clock : Readings) (l : Lease) (reason reason' : ReleaseReason)
    (notes : List Note) :
    (closing clock l reason notes).map (Effect.withReason reason') =
      closing clock l reason' notes := by
  simp [closing, Effect.withReason]

/-- Giving back a lease leads to the same coordinator as letting it run out, but for the timer of
the lease, and to the same effects, but for the reason of the release. -/
theorem Sound.step_release_eq {channel : String} {only : Option Nat} (h : c.Sound)
    (hlease : c.leases.get? channel = some l) (honly : ∀ k : Nat, only = some k → k = l.id)
    (clock : Readings) (reach : String → Bool) :
    c.step clock reach (.message (.release channel only)) =
      ((c.step clock reach (.expiry ⟨channel, l.id⟩)).1.cancelWatcher l.id,
        .note .handling :: (c.step clock reach (.expiry ⟨channel, l.id⟩)).2.map
          (Effect.withReason .released)) := by
  have hlt := h.lease_lt channel l hlease
  have hmeant : only.any (· ≠ l.id) = false := by
    cases only with
    | none => rfl
    | some k => simp [honly k rfl]
  obtain ⟨-, hreturned⟩ := (h.cancelWatcher l.id).finish clock reach hlease
  obtain ⟨-, hexpired⟩ := h.finish clock reach hlease
  have hdrain := (h.closed hlease).drain clock reach
  have hcancelled := ((h.cancelWatcher l.id).closed hlease).drain clock reach
  have hearlier := Drained.cancelWatcher (c := c.closed channel l) hlt hdrain
  obtain ⟨heffects, hsame⟩ := hcancelled.unique hearlier
  have hreturn : c.step clock reach (.message (.release channel only)) =
      ((((c.cancelWatcher l.id).closed channel l).drain clock reach).1,
        .note .handling :: (closing clock l .released (c.pool.release l.index l.requester).2.2 ++
          (((c.cancelWatcher l.id).closed channel l).drain clock reach).2)) := by
    simp only [Coordinator.step, handle, Coordinator.release, hlease, hmeant, Bool.false_eq_true,
      if_false]
    exact congrArg (fun result : Coordinator × List Effect =>
      (result.1, Effect.note .handling :: result.2)) (hreturned .released)
  have hexpiry : c.step clock reach (.expiry ⟨channel, l.id⟩) =
      (((c.closed channel l).drain clock reach).1,
        closing clock l .timedOut (c.pool.release l.index l.requester).2.2 ++
          ((c.closed channel l).drain clock reach).2) := by
    simp only [Coordinator.step, Coordinator.expire, hlease, if_true]
    exact hexpired .timedOut
  rw [hreturn, hexpiry, List.map_append, map_withReason_closing, hdrain.map_withReason, heffects,
    hsame]

/-! ### Every grant ends once -/

/-- From here on a lease goes on until the first input that ends it. That step reports the release
of its slot and no other release; after it the lease is gone, and inputs that name it change
nothing. -/
structure EndsOnce (c : Coordinator) (channel : String) (lease : Nat) (requester : String)
    (index : Nat) : Prop where
  current : ∀ quiet : List Occasion, Quiet channel lease quiet →
    ∃ l, (c.run quiet).1.leases.get? channel = some l ∧ l.id = lease ∧
      l.requester = requester ∧ l.index = index
  unreported : ∀ quiet : List Occasion, Quiet channel lease quiet →
    ∀ report ∈ (c.run quiet).2.filterMap Effect.released?, report.1 ≠ requester
  reported : ∀ (quiet : List Occasion) (o : Occasion) (reason : ReleaseReason),
    Quiet channel lease quiet → Ends channel lease o.input reason →
      ((c.run quiet).1.step o.clock o.reach o.input).2.filterMap Effect.released? =
        [(requester, index, reason)]
  spent : ∀ (quiet late : List Occasion) (o : Occasion) (reason : ReleaseReason),
    Quiet channel lease quiet → Ends channel lease o.input reason →
      Spent (c.run (quiet ++ o :: late)).1 lease
  inert : ∀ (quiet late : List Occasion) (o o' : Occasion) (reason : ReleaseReason),
    Quiet channel lease quiet → Ends channel lease o.input reason → Names lease o'.input →
      ((c.run (quiet ++ o :: late)).1.step o'.clock o'.reach o'.input).1 =
        (c.run (quiet ++ o :: late)).1

theorem Holds.endsOnce (h : Holds c l r) (hc : c.Resting) :
    EndsOnce c (releaseChannel l.requester) l.id l.requester l.index := by
  have hspent (quiet late : List Occasion) (o : Occasion) (reason : ReleaseReason)
      (hquiet : Quiet (releaseChannel l.requester) l.id quiet)
      (hends : Ends (releaseChannel l.requester) l.id o.input reason) :
      Spent (c.run (quiet ++ o :: late)).1 l.id := by
    have hrest := hc.run quiet
    obtain ⟨-, hended⟩ := (h.run hc hquiet).1.ended hrest.toSound hends (hrest.stepped o)
    rw [run_append, run_cons]
    exact hended.run (hrest.step o) late
  constructor
  · intro quiet hquiet
    exact ⟨l, (h.run hc hquiet).1.lease, rfl, rfl, rfl⟩
  · intro quiet hquiet
    exact h.run_released hc hquiet
  · intro quiet o reason hquiet hends
    have hrest := hc.run quiet
    exact ((h.run hc hquiet).1.ended hrest.toSound hends (hrest.stepped o)).1
  · exact hspent
  · intro quiet late o o' reason hquiet hends hnames
    exact (hspent quiet late o reason hquiet hends).step_eq hnames o'.clock o'.reach

/-- Delivered lease ids increase, every delivered lease ends once, and it makes no difference to the
coordinator, but for the timer, which way a lease ends. -/
theorem create_run_endsOnce {name : PoolName} {options : PoolOptions} {now : Readings}
    {e : Event} (hcreate : create name options now = .ok (c, e)) :
    (∀ os, ((c.run os).2.filterMap Effect.deliveredLease?).Pairwise (· < ·)) ∧
      (∀ (before : List Occasion) (o : Occasion) (requester channel : String) (lease : Nat)
        (r : Resource), .delivery requester (.acquired channel lease r) true ∈
            ((c.run before).1.step o.clock o.reach o.input).2 →
          EndsOnce ((c.run before).1.step o.clock o.reach o.input).1 channel lease requester
            r.index) ∧
      ∀ (os : List Occasion) (channel : String) (l : Lease) (only : Option Nat) (clock : Readings)
        (reach : String → Bool), (c.run os).1.leases.get? channel = some l →
          (∀ k : Nat, only = some k → k = l.id) →
          let expired := (c.run os).1.step clock reach (.expiry ⟨channel, l.id⟩)
          (c.run os).1.step clock reach (.message (.release channel only)) =
            (expired.1.cancelWatcher l.id,
              .note .handling :: expired.2.map (Effect.withReason .released)) := by
  have hresting := resting_create hcreate
  refine ⟨hresting.deliveredLeases_increasing, ?_, ?_⟩
  · intro before o requester channel lease r hgrant
    have hbefore := hresting.run before
    obtain ⟨rfl, hheld, -⟩ := (hbefore.stepped o).handover hbefore.toSound hgrant
    exact hheld.endsOnce (hbefore.step o)
  · intro os channel l only clock reach hlease honly
    exact (hresting.run os).toSound.step_release_eq hlease honly clock reach

/-- The first grant of a pool with one slot. -/
theorem create_run_endsOnce_first :
    ∃ c e, create ⟨"space", "disk"⟩ ⟨1, none, .plain, 1000⟩ default = .ok (c, e) ∧
      EndsOnce (c.step default (fun _ => true) (.message (.request "a" 0))).1 (releaseChannel "a")
        0 "a" 0 := by
  have hcreate : create ⟨"space", "disk"⟩ ⟨1, none, .plain, 1000⟩ default = .ok (_, _) := rfl
  refine ⟨_, _, hcreate, ?_⟩
  exact (create_run_endsOnce hcreate).2.1 [] ⟨default, fun _ => true, .message (.request "a" 0)⟩
    "a" (releaseChannel "a") 0 _ (List.mem_cons_of_mem _ List.mem_cons_self)

end Coordinator

end LeasePool
