import LeasePool.Proofs.Leases

/-!
What one step of a coordinator can do, said once. An input changes the waiting list, ends a lease,
resizes the pool or does nothing; after that the waiting list is served, which is a run of offers,
each made with a slot at hand. Between steps nobody waits for a slot that is free, so that a request
that is granted at once can be seen as one that waits for no time. Every property of steps is read
off these cases.
-/
namespace LeasePool.Coordinator

variable {c c' : Coordinator} {clock : Readings} {reach : String → Bool}

/-- The coordinator with another waiting list. -/
def withQueue (c : Coordinator) (queue : List Pending) : Coordinator :=
  { c with pool := { c.pool with queue } }

/-- The coordinator whose slots were refitted to a size. -/
def refitted (c : Coordinator) (slots : List Slot) (size : Nat) : Coordinator :=
  { c with pool := { c.pool with slots, free := size - c.pool.grants.length, target := size } }

/-- Nobody waits for a slot that is free. -/
def Settled (c : Coordinator) : Prop := c.pool.free = 0 ∨ c.pool.queue = []

/-- One attempt to grant a slot to a requester. -/
inductive Offer (clock : Readings) (reach : String → Bool) (c : Coordinator) (requester : String) :
    List Effect → Coordinator → Prop where
  | granted (index : Nat) (s : Slot) (hfirst : c.pool.IsFirst index s)
      (hreach : reach requester = true) :
      Offer clock reach c requester
        [.delivery requester
            (.acquired (releaseChannel requester) c.nextLease
              (s.allocate (clock.acquired requester)).resource)
            true,
          .event (.granted requester s.resource.id index c.leaseTimeout)]
        (c.granted clock index requester)
  | refused (index : Nat) (s : Slot) (hfirst : c.pool.IsFirst index s)
      (hreach : reach requester = false) :
      Offer clock reach c requester
        [.delivery requester
            (.acquired (releaseChannel requester) c.nextLease
              (s.allocate (clock.acquired requester)).resource)
            false,
          .note .grantUndeliverable, .event (.rolledBack requester index)]
        c.skipped

/-- Serving the waiting list until no slot is free or nobody waits. -/
inductive Drained (clock : Readings) (reach : String → Bool) :
    Coordinator → List Effect → Coordinator → Prop where
  | done {c : Coordinator} (hrest : c.Settled) : Drained clock reach c [] c
  | serve {c c' c'' : Coordinator} {r : Pending} {rest : List Pending} {effects more : List Effect}
      (hfree : 0 < c.pool.free) (hqueue : c.pool.queue = r :: rest)
      (hoffer : Offer clock reach (c.withQueue rest) r.requester effects c')
      (hmore : Drained clock reach c' more c'') :
      Drained clock reach c (effects ++ more) c''

/-- What is reported when a lease ends for a reason. -/
def closing (clock : Readings) (l : Lease) (reason : ReleaseReason) (notes : List Note) :
    List Effect :=
  notes.map .note ++
    [.note .slotFreed,
      .event (.released l.requester l.index reason (Duration.between l.grantedAt clock.ended))]

/-- What an input changes before the waiting list is served. A request that finds a slot at hand
passes through the waiting list like any other. -/
inductive Changed (clock : Readings) (reach : String → Bool) (c : Coordinator) :
    Input → List Effect → Coordinator → Prop where
  | duplicate (requester : String) (priority : Int) (hknown : c.pool.Knows requester) :
      Changed clock reach c (.message (.request requester priority))
        [.note .handling, .note .duplicateIgnored, .event (.duplicate requester)] c
  | admitted (requester : String) (priority : Int) (hnew : ¬ c.pool.Knows requester)
      (hqueue : c.pool.queue = []) (hfree : 0 < c.pool.free) :
      Changed clock reach c (.message (.request requester priority)) [.note .handling]
        (c.withQueue (c.pool.queue ++ [⟨requester, priority⟩]))
  | queued (requester : String) (priority : Int) (hnew : ¬ c.pool.Knows requester)
      (hwait : c.pool.queue = [] → c.pool.free = 0) :
      Changed clock reach c (.message (.request requester priority))
        [.note .handling, .event (.queued requester priority c.pool.queue.length)]
        (c.withQueue (c.pool.queue ++ [⟨requester, priority⟩]))
  | released {channel : String} {only : Option Nat} {l : Lease} {notes : List Note}
      (hlease : c.leases.get? channel = some l) (honly : ∀ k : Nat, only = some k → k = l.id)
      (hnotes : ∀ n ∈ notes, n = .slotsDropped) :
      Changed clock reach c (.message (.release channel only))
        (.note .handling :: closing clock l .released notes)
        ((c.cancelWatcher l.id).closed channel l)
  | strayRelease (channel : String) (only : Option Nat) (n : Note)
      (hstray : ∀ l : Lease, c.leases.get? channel = some l → ∃ k, only = some k ∧ k ≠ l.id)
      (hn : n = .unknownLeaseIgnored ∨ n = .staleReleaseIgnored) :
      Changed clock reach c (.message (.release channel only)) [.note .handling, .note n] c
  | expired {channel : String} {l : Lease} {notes : List Note}
      (hlease : c.leases.get? channel = some l) (hnotes : ∀ n ∈ notes, n = .slotsDropped) :
      Changed clock reach c (.expiry ⟨channel, l.id⟩) (closing clock l .timedOut notes)
        (c.closed channel l)
  | strayExpiry (e : Expiry)
      (hstray : ∀ l : Lease, c.leases.get? e.channel = some l → l.id ≠ e.lease) :
      Changed clock reach c (.expiry e) [.note .staleTimeoutIgnored] c
  | resizeRejected :
      Changed clock reach c (.message (.resize 0))
        [.note .handling, .note .emptyResizeIgnored, .event (.resizeRejected 0)] c
  | resized {size : Nat} {slots : List Slot} {outcome : ResizeOutcome} (hsize : 0 < size)
      (hresize : c.pool.resize c.name c.provisioner.strategy clock size =
        ((c.refitted slots size).pool, outcome, []))
      (hrefit : Refit c.provisioner c.name c.pool.slots slots) :
      Changed clock reach c (.message (.resize size))
        [.note .handling, .note .resizeApplied,
          .event (.resized outcome.previous outcome.size (size - c.pool.grants.length))]
        (c.refitted slots size)
  | withdrawn (requester : String) (hwaits : requester ∈ c.pool.queue.map Pending.requester) :
      Changed clock reach c (.message (.cancel requester))
        (.note .handling :: .delivery requester .cancelled (reach requester) ::
          (if reach requester then [] else [.note .cancellationUndeliverable]) ++
          [.event (.waitCancelled requester)])
        (c.withQueue (c.pool.queue.eraseP fun r => r.requester == requester))
  | notWaiting (requester : String) (hgone : requester ∉ c.pool.queue.map Pending.requester) :
      Changed clock reach c (.message (.cancel requester)) [.note .handling, .note .notWaiting] c
  | status : Changed clock reach c (.message .status)
      [.note .handling, .answer (.status (c.pool.status c.name.resource))] c
  | allocation : Changed clock reach c (.message .allocation)
      [.note .handling, .answer (.allocation (c.pool.allocation c.name.resource))] c

/-- A step changes something and then serves the waiting list. -/
inductive Stepped (clock : Readings) (reach : String → Bool) (c : Coordinator) (input : Input) :
    List Effect → Coordinator → Prop where
  | intro {first more : List Effect} {c₁ c' : Coordinator}
      (hchange : Changed clock reach c input first c₁) (hdrain : Drained clock reach c₁ more c') :
      Stepped clock reach c input (first ++ more) c'

/-! ### Offers -/

theorem withQueue_eq_self {queue : List Pending} (hqueue : c.pool.queue = queue) :
    c.withQueue queue = c := by
  subst hqueue
  rfl

/-- What stays of the waiting list after a request was taken from its head. -/
theorem Sound.dequeue {r : Pending} {rest : List Pending} (h : c.Sound)
    (hqueue : c.pool.queue = r :: rest) :
    (c.withQueue rest).Sound ∧ ¬ (c.withQueue rest).pool.Knows r.requester := by
  obtain ⟨hpool, hnew⟩ := h.pool.dequeue hqueue
  exact ⟨h.of_pool _ hpool rfl, hnew⟩

/-- An attempt that has a free slot is an offer of the first one. -/
theorem Sound.tryGrant {r : Pending} (h : c.Sound) (clock : Readings) (reach : String → Bool)
    (hfree : 0 < c.pool.free) (hnew : ¬ c.pool.Knows r.requester) :
    ∃ effects c' outcome, c.tryGrant clock reach r = (c', effects, outcome) ∧
      outcome ≠ .noCapacity ∧ Offer clock reach c r.requester effects c' := by
  obtain ⟨index, s, hfirst⟩ := h.pool.exists_isFirst hfree
  have hgrant := ((Pool.Accounted.not_knows_iff c.pool r.requester).mp hnew).1
  have hallocate := Pool.allocate_of_isFirst (clock.acquired r.requester) hfree hfirst hgrant
  have hplace : s.resource.index = index := h.pool.index_eq hfirst.2
  have hindex : (s.allocate (clock.acquired r.requester)).resource.index = index := hplace
  have hback := Pool.rollback_grant h.pool.toAccounted (clock.acquired r.requester) hfree hfirst
    hgrant
  cases hreach : reach r.requester with
  | true =>
    refine ⟨_, _, .granted, ?_, by decide, Offer.granted index s hfirst hreach⟩
    simp only [Coordinator.tryGrant, hallocate, hreach, if_true, hindex, List.map_nil,
      List.nil_append]
    rfl
  | false =>
    refine ⟨_, _, .rolledBack, ?_, by decide, Offer.refused index s hfirst hreach⟩
    simp only [Coordinator.tryGrant, hallocate, hreach, Bool.false_eq_true, if_false, hindex,
      hback, List.map_nil, List.nil_append]
    rfl

theorem tryGrant_of_free_eq_zero (clock : Readings) (reach : String → Bool) (r : Pending)
    (hfree : c.pool.free = 0) : c.tryGrant clock reach r = (c, [], .noCapacity) := by
  rw [Coordinator.tryGrant,
    Pool.allocate_of_free_eq_zero (clock.acquired r.requester) r.requester hfree]
  rfl

theorem Offer.sound {requester : String} {effects : List Effect}
    (hoffer : Offer clock reach c requester effects c') (h : c.Sound) (hfree : 0 < c.pool.free)
    (hnew : ¬ c.pool.Knows requester) : c'.Sound := by
  cases hoffer with
  | granted index s hfirst hreach => exact h.granted clock hfree hfirst hnew
  | refused index s hfirst hreach => exact h.skipped

theorem Offer.queue_eq {requester : String} {effects : List Effect}
    (hoffer : Offer clock reach c requester effects c') : c'.pool.queue = c.pool.queue := by
  cases hoffer <;> rfl

theorem Offer.nextLease_eq {requester : String} {effects : List Effect}
    (hoffer : Offer clock reach c requester effects c') : c'.nextLease = c.nextLease + 1 := by
  cases hoffer <;> rfl

/-- The outcome of an offer is determined. -/
theorem Offer.unique {requester : String} {effects effects' : List Effect} {c'' : Coordinator}
    (hoffer : Offer clock reach c requester effects c')
    (hoffer' : Offer clock reach c requester effects' c'') : effects = effects' ∧ c' = c'' := by
  cases hoffer with
  | granted index s hfirst hreach =>
    cases hoffer' with
    | granted index' s' hfirst' hreach' =>
      obtain ⟨rfl, rfl⟩ := hfirst.unique hfirst'
      exact ⟨rfl, rfl⟩
    | refused index' s' hfirst' hreach' =>
      rw [hreach] at hreach'
      cases hreach'
  | refused index s hfirst hreach =>
    cases hoffer' with
    | granted index' s' hfirst' hreach' =>
      rw [hreach] at hreach'
      cases hreach'
    | refused index' s' hfirst' hreach' =>
      obtain ⟨rfl, rfl⟩ := hfirst.unique hfirst'
      exact ⟨rfl, rfl⟩

/-! ### Serving the waiting list -/

theorem not_settled {r : Pending} {rest : List Pending} (hfree : 0 < c.pool.free)
    (hqueue : c.pool.queue = r :: rest) : ¬ c.Settled := by
  rintro (hzero | hnil)
  · omega
  · rw [hnil] at hqueue
    cases hqueue

theorem Drained.sound {effects : List Effect} (hdrain : Drained clock reach c effects c')
    (h : c.Sound) : c'.Sound := by
  induction hdrain with
  | done hrest => exact h
  | serve hfree hqueue hoffer hmore ih =>
    obtain ⟨hsound, hnew⟩ := h.dequeue hqueue
    exact ih (hoffer.sound hsound hfree hnew)

/-- An offer to somebody who is alone on the waiting list serves all of it. -/
theorem Offer.drained {requester : String} {effects : List Effect}
    (hoffer : Offer clock reach c requester effects c') (priority : Int)
    (hqueue : c.pool.queue = []) (hfree : 0 < c.pool.free) :
    Drained clock reach (c.withQueue (c.pool.queue ++ [⟨requester, priority⟩])) effects c' := by
  have hlist : (c.withQueue (c.pool.queue ++ [⟨requester, priority⟩])).pool.queue =
      [⟨requester, priority⟩] := by
    rw [hqueue]
    rfl
  have hback : (c.withQueue (c.pool.queue ++ [⟨requester, priority⟩])).withQueue [] = c :=
    withQueue_eq_self hqueue
  have hroom : 0 < (c.withQueue (c.pool.queue ++ [⟨requester, priority⟩])).pool.free := hfree
  have hrest : c'.pool.queue = [] := hoffer.queue_eq.trans hqueue
  have hdrain := Drained.serve hroom hlist (hback.symm ▸ hoffer) (Drained.done (Or.inr hrest))
  rwa [List.append_nil] at hdrain

/-- Whoever is alone on the waiting list is served by one offer. -/
theorem Drained.offer {requester : String} {priority : Int} {effects : List Effect}
    (hdrain : Drained clock reach (c.withQueue (c.pool.queue ++ [⟨requester, priority⟩])) effects
      c') (hqueue : c.pool.queue = []) (hfree : 0 < c.pool.free) :
    Offer clock reach c requester effects c' := by
  rw [hqueue, List.nil_append] at hdrain
  have hroom : 0 < (c.withQueue [⟨requester, priority⟩]).pool.free := hfree
  have hback : (c.withQueue [⟨requester, priority⟩]).withQueue [] = c := withQueue_eq_self hqueue
  cases hdrain with
  | done hrest => exact absurd hrest (not_settled hroom rfl)
  | serve hfree hlist hoffer hmore =>
    obtain ⟨rfl, rfl⟩ := List.cons.inj hlist
    rw [hback] at hoffer
    have hrest := hoffer.queue_eq.trans hqueue
    cases hmore with
    | done _ => rwa [List.append_nil]
    | serve hfree' hlist' => exact absurd (Or.inr hrest) (not_settled hfree' hlist')

theorem Settled.grantNext (hrest : c.Settled) (clock : Readings) (reach : String → Bool) :
    c.grantNext clock reach = (c, [], false) := by
  unfold Coordinator.grantNext
  by_cases hfree : c.pool.free = 0
  · rw [if_pos hfree]
  · have hqueue := hrest.resolve_left hfree
    rw [if_neg hfree, Pool.dequeue, hqueue]

theorem Sound.grantNext {r : Pending} {rest : List Pending} (h : c.Sound) (clock : Readings)
    (reach : String → Bool) (hfree : 0 < c.pool.free) (hqueue : c.pool.queue = r :: rest) :
    ∃ effects c', c.grantNext clock reach = (c', effects, true) ∧
      Offer clock reach (c.withQueue rest) r.requester effects c' := by
  obtain ⟨hsound, hnew⟩ := h.dequeue hqueue
  obtain ⟨effects, c', outcome, htry, houtcome, hoffer⟩ :=
    hsound.tryGrant clock reach hfree hnew
  refine ⟨effects, c', ?_, hoffer⟩
  unfold Coordinator.withQueue at htry
  rw [Coordinator.grantNext, if_neg (by omega), Pool.dequeue, hqueue]
  simp only [htry]

/-- With more rounds than requests, serving goes on until it has to stop. -/
theorem Sound.drainUpTo (clock : Readings) (reach : String → Bool) (n : Nat) (h : c.Sound)
    (hn : c.pool.queue.length < n) :
    Drained clock reach c (Coordinator.drainUpTo clock reach n c).2
      (Coordinator.drainUpTo clock reach n c).1 := by
  induction n generalizing c with
  | zero => exact absurd hn (Nat.not_lt_zero _)
  | succ n ih =>
    by_cases hrest : c.Settled
    · rw [Coordinator.drainUpTo, hrest.grantNext clock reach]
      exact Drained.done hrest
    · obtain ⟨hfree, hwaits⟩ := not_or.mp hrest
      obtain ⟨r, rest, hqueue⟩ := List.exists_cons_of_ne_nil hwaits
      have hfree : 0 < c.pool.free := Nat.pos_of_ne_zero hfree
      obtain ⟨effects, c', hnext, hoffer⟩ := h.grantNext clock reach hfree hqueue
      obtain ⟨hsound, hnew⟩ := h.dequeue hqueue
      have hlength : c'.pool.queue.length < n := by
        have hsame : c'.pool.queue = rest := hoffer.queue_eq
        rw [hqueue, List.length_cons] at hn
        rw [hsame]
        omega
      rw [Coordinator.drainUpTo, hnext]
      exact Drained.serve hfree hqueue hoffer (ih (hoffer.sound hsound hfree hnew) hlength)

theorem Sound.drain (h : c.Sound) (clock : Readings) (reach : String → Bool) :
    Drained clock reach c (c.drain clock reach).2 (c.drain clock reach).1 :=
  h.drainUpTo clock reach _ (Nat.lt_succ_self _)

/-- Nothing is left to serve. -/
theorem Drained.settled {effects : List Effect} (hdrain : Drained clock reach c effects c') :
    c'.Settled := by
  induction hdrain with
  | done hrest => exact hrest
  | serve hfree hqueue hoffer hmore ih => exact ih

/-- The outcome of serving the waiting list is determined. -/
theorem Drained.unique {effects effects' : List Effect} {c'' : Coordinator}
    (hdrain : Drained clock reach c effects c') (hdrain' : Drained clock reach c effects' c'') :
    effects = effects' ∧ c' = c'' := by
  induction hdrain generalizing effects' c'' with
  | done hrest =>
    cases hdrain' with
    | done hrest' => exact ⟨rfl, rfl⟩
    | serve hfree hqueue hoffer hmore => exact absurd hrest (not_settled hfree hqueue)
  | serve hfree hqueue hoffer hmore ih =>
    cases hdrain' with
    | done hrest' => exact absurd hrest' (not_settled hfree hqueue)
    | serve hfree' hqueue' hoffer' hmore' =>
      obtain ⟨rfl, rfl⟩ := List.cons.inj (hqueue.symm.trans hqueue')
      obtain ⟨rfl, rfl⟩ := hoffer.unique hoffer'
      obtain ⟨rfl, rfl⟩ := ih hmore'
      exact ⟨rfl, rfl⟩

/-! ### Changes -/

theorem Changed.sound {input : Input} {effects : List Effect}
    (hchange : Changed clock reach c input effects c') (h : c.Sound) : c'.Sound := by
  cases hchange with
  | duplicate | strayRelease | strayExpiry | resizeRejected | notWaiting | status | allocation =>
    exact h
  | admitted requester priority hnew | queued requester priority hnew =>
    exact h.of_pool _ (h.pool.enqueue (r := ⟨requester, priority⟩) hnew) rfl
  | released hlease honly hnotes => exact (h.cancelWatcher _).closed hlease
  | expired hlease hnotes => exact h.closed hlease
  | resized hsize hresize hrefit =>
    have hpool := h.pool.resize clock hsize
    rw [hresize] at hpool
    exact h.of_pool _ hpool rfl
  | withdrawn requester hwaits => exact h.of_pool _ (h.pool.withdraw requester) rfl

theorem Stepped.sound {input : Input} {effects : List Effect}
    (hstep : Stepped clock reach c input effects c') (h : c.Sound) : c'.Sound := by
  cases hstep with
  | intro hchange hdrain => exact hdrain.sound (hchange.sound h)

theorem Stepped.settled {input : Input} {effects : List Effect}
    (hstep : Stepped clock reach c input effects c') : c'.Settled := by
  cases hstep with
  | intro hchange hdrain => exact hdrain.settled

/-- A change after which there is nothing to serve. -/
theorem Changed.stepped {input : Input} {effects : List Effect}
    (hchange : Changed clock reach c input effects c') (hsettled : c'.Settled) :
    Stepped clock reach c input effects c' := by
  have hstep := Stepped.intro hchange (Drained.done hsettled)
  rwa [List.append_nil] at hstep

/-! ### Handling an input -/

theorem knows_iff (c : Coordinator) (requester : String) :
    ((c.pool.grantOf? requester).isSome || c.pool.isWaiting requester) = true ↔
      c.pool.Knows requester := by
  have hgrant : (c.pool.grants.get? requester).isSome = true ↔
      requester ∈ c.pool.grants.keys := by
    rw [← not_iff_not, ← Assoc.get?_eq_none_iff, Bool.not_eq_true, Option.isSome_eq_false_iff,
      Option.isNone_iff_eq_none]
  rw [Bool.or_eq_true, Pool.grantOf?, hgrant, Pool.Knows, List.mem_append]
  simp [Pool.isWaiting]

theorem Sound.acquire (h : c.Sound) (hsettled : c.Settled) (clock : Readings)
    (reach : String → Bool) (requester : String) (priority : Int) :
    Stepped clock reach c (.message (.request requester priority))
      (.note .handling :: (c.acquire clock reach ⟨requester, priority⟩).2)
      (c.acquire clock reach ⟨requester, priority⟩).1 := by
  unfold Coordinator.acquire
  by_cases hknown : c.pool.Knows requester
  · rw [if_pos ((c.knows_iff requester).mpr hknown)]
    exact (Changed.duplicate requester priority hknown).stepped hsettled
  · rw [if_neg fun hdup => hknown ((c.knows_iff requester).mp hdup)]
    by_cases hqueue : c.pool.queue = []
    · have hempty : c.pool.waitingCount = 0 := List.length_eq_zero_iff.mpr hqueue
      rw [if_pos hempty]
      by_cases hfree : c.pool.free = 0
      · rw [tryGrant_of_free_eq_zero clock reach _ hfree]
        exact (Changed.queued requester priority hknown fun _ => hfree).stepped (Or.inl hfree)
      · have hpos : 0 < c.pool.free := Nat.pos_of_ne_zero hfree
        obtain ⟨effects, c', outcome, htry, houtcome, hoffer⟩ :=
          h.tryGrant (r := ⟨requester, priority⟩) clock reach hpos hknown
        have hchange : Changed clock reach c _ _ _ :=
          Changed.admitted requester priority hknown hqueue hpos
        simp only [htry, houtcome, if_false]
        exact Stepped.intro hchange (hoffer.drained priority hqueue hpos)
    · have hwaiting : c.pool.waitingCount ≠ 0 := fun hzero =>
        hqueue (List.length_eq_zero_iff.mp hzero)
      have hfree := hsettled.resolve_right hqueue
      rw [if_neg hwaiting]
      exact (Changed.queued requester priority hknown fun _ => hfree).stepped (Or.inl hfree)

/-- Giving back the slot of a lease and serving the waiting list after that. What happens does not
depend on the reason. -/
theorem Sound.finish {channel : String} {l : Lease} (h : c.Sound) (clock : Readings)
    (reach : String → Bool) (hlease : c.leases.get? channel = some l) :
    (∀ n ∈ (c.pool.release l.index l.requester).2.2, n = .slotsDropped) ∧
    ∀ reason : ReleaseReason,
      Coordinator.finish { c with leases := c.leases.erase channel } clock reach l reason =
        (((c.closed channel l).drain clock reach).1,
          closing clock l reason (c.pool.release l.index l.requester).2.2 ++
            ((c.closed channel l).drain clock reach).2) := by
  obtain ⟨-, hgrant⟩ := h.grant_of_lease channel l hlease
  obtain ⟨s, hs, -⟩ := h.pool.exists_slot hgrant
  have hlt : l.index < c.pool.slots.length := (List.getElem?_eq_some_iff.mp hs).1
  obtain ⟨status, notes, hrelease, hnotes⟩ := Pool.release_of_grant hgrant hlt
  rw [hrelease]
  refine ⟨hnotes, fun reason => ?_⟩
  rw [Coordinator.finish]
  simp only [hrelease]
  rfl

theorem Sound.release (h : c.Sound) (hsettled : c.Settled) (clock : Readings)
    (reach : String → Bool) (channel : String) (only : Option Nat) :
    Stepped clock reach c (.message (.release channel only))
      (.note .handling :: (c.release clock reach channel only).2)
      (c.release clock reach channel only).1 := by
  unfold Coordinator.release
  cases hlease : c.leases.get? channel with
  | none =>
    exact (Changed.strayRelease channel only _ (by simp [hlease]) (Or.inl rfl)).stepped hsettled
  | some l =>
    by_cases honly : only.any (· ≠ l.id) = true
    · simp only [honly, if_true]
      obtain ⟨k, hk, hne⟩ := (Option.any_eq_true _ _).mp honly
      have hstray : ∀ l' : Lease, c.leases.get? channel = some l' →
          ∃ k, only = some k ∧ k ≠ l'.id := by
        intro l' hl'
        rw [hlease, Option.some.injEq] at hl'
        rw [← hl']
        exact ⟨k, hk, by simpa using hne⟩
      exact (Changed.strayRelease channel only _ hstray (Or.inr rfl)).stepped hsettled
    · simp only [honly, Bool.false_eq_true, if_false]
      have hsame : ∀ k : Nat, only = some k → k = l.id := by
        rintro k rfl
        simpa using honly
      have hsound := h.cancelWatcher l.id
      obtain ⟨hnotes, hfinish⟩ := hsound.finish clock reach hlease
      have hsplit : Coordinator.finish
          (Coordinator.cancelWatcher { c with leases := c.leases.erase channel } l.id)
          clock reach l .released = _ := hfinish .released
      rw [hsplit]
      exact Stepped.intro (Changed.released hlease hsame hnotes)
        ((hsound.closed hlease).drain clock reach)

theorem Sound.expire (h : c.Sound) (hsettled : c.Settled) (clock : Readings)
    (reach : String → Bool) (e : Expiry) :
    Stepped clock reach c (.expiry e) (c.expire clock reach e).2 (c.expire clock reach e).1 := by
  unfold Coordinator.expire
  cases hlease : c.leases.get? e.channel with
  | none => exact (Changed.strayExpiry e (by simp [hlease])).stepped hsettled
  | some l =>
    by_cases hid : l.id = e.lease
    · simp only [hid, if_true]
      obtain ⟨hnotes, hfinish⟩ := h.finish clock reach hlease
      have hstep := Stepped.intro (Changed.expired hlease hnotes)
        ((h.closed hlease).drain clock reach)
      rw [hfinish]
      rwa [hid] at hstep
    · simp only [hid, if_false]
      have hstray : ∀ l' : Lease, c.leases.get? e.channel = some l' → l'.id ≠ e.lease := by
        intro l' hl'
        rw [hlease, Option.some.injEq] at hl'
        rwa [← hl']
      exact (Changed.strayExpiry e hstray).stepped hsettled

theorem Sound.resize (h : c.Sound) (hsettled : c.Settled) (clock : Readings)
    (reach : String → Bool) (size : Nat) :
    Stepped clock reach c (.message (.resize size))
      (.note .handling :: (c.resize clock reach size).2) (c.resize clock reach size).1 := by
  unfold Coordinator.resize
  by_cases hsize : size = 0
  · subst hsize
    exact Changed.resizeRejected.stepped hsettled
  · have hpos : 0 < size := Nat.pos_of_ne_zero hsize
    obtain ⟨slots, outcome, hresize, hrefit, -, -⟩ := h.pool.exists_resize clock size
    have hchange : Changed clock reach c _ _ _ := Changed.resized hpos hresize hrefit
    rw [if_neg hsize]
    simp only [hresize]
    exact Stepped.intro hchange ((hchange.sound h).drain clock reach)

theorem Settled.cancel (hsettled : c.Settled) (clock : Readings) (reach : String → Bool)
    (requester : String) :
    Stepped clock reach c (.message (.cancel requester))
      (.note .handling :: (c.cancel reach requester).2) (c.cancel reach requester).1 := by
  have hwaits : (∃ r, c.pool.queue.find? (fun r => r.requester == requester) = some r) ↔
      requester ∈ c.pool.queue.map Pending.requester := by
    rw [← Option.isSome_iff_exists, List.find?_isSome]
    simp
  unfold Coordinator.cancel Pool.withdraw
  cases hfind : c.pool.queue.find? (fun r => r.requester == requester) with
  | none =>
    have hgone : requester ∉ c.pool.queue.map Pending.requester := by
      rw [← hwaits, hfind]
      rintro ⟨r, hr⟩
      cases hr
    simp only [hfind]
    exact (Changed.notWaiting requester hgone).stepped hsettled
  | some r =>
    have hchange : Changed clock reach c _ _ _ :=
      Changed.withdrawn requester (hwaits.mp ⟨r, hfind⟩)
    have hfree : c.pool.free = 0 := by
      apply hsettled.resolve_right
      rintro hnil
      rw [hnil] at hfind
      cases hfind
    simp only [hfind]
    exact hchange.stepped (Or.inl hfree)

/-- What a step of a coordinator at rest does. -/
theorem Sound.step (h : c.Sound) (hsettled : c.Settled) (clock : Readings) (reach : String → Bool)
    (input : Input) :
    Stepped clock reach c input (c.step clock reach input).2 (c.step clock reach input).1 := by
  cases input with
  | expiry e => exact h.expire hsettled clock reach e
  | message m =>
    cases m with
    | request requester priority => exact h.acquire hsettled clock reach requester priority
    | release channel only => exact h.release hsettled clock reach channel only
    | resize size => exact h.resize hsettled clock reach size
    | cancel requester => exact hsettled.cancel clock reach requester
    | status => exact Changed.status.stepped hsettled
    | allocation => exact Changed.allocation.stepped hsettled

end LeasePool.Coordinator
