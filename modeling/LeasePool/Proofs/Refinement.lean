import LeasePool.Proofs.Runs
import LeasePool.Proofs.Semaphore

/-!
A coordinator behaves like a semaphore. Its grants are the holders, its target is the capacity, and
its lease ids are the permit numbers; which slots there are and what becomes of them cannot be seen
by requesters. In particular the coordinator, which only keeps a running count of free slots, always
has as many as the semaphore has room for.
-/
namespace LeasePool

open Semaphore (Attempt Move)

/-- The attempt to reach a requester that an effect is. -/
def Effect.attempt? : Effect → Option Attempt
  | .delivery requester (.acquired _ lease _) delivered => some (.grant requester lease delivered)
  | .delivery requester .cancelled delivered => some (.cancellation requester delivered)
  | _ => none

/-- The requester to whom a release channel belongs. -/
def requesterOf? (channel : String) : Option String :=
  (channel.toList.dropPrefix? releaseChannelStart.toList).map String.ofList

theorem requesterOf?_eq_some_iff (channel requester : String) :
    requesterOf? channel = some requester ↔ channel = releaseChannel requester := by
  simp only [requesterOf?, Option.map_eq_some_iff, List.dropPrefix?_eq_some_iff]
  constructor
  · rintro ⟨rest, ⟨start, hsplit, hstart⟩, hrest⟩
    rw [beq_iff_eq] at hstart
    apply String.toList_inj.mp
    rw [releaseChannel, String.toList_append, hsplit, hstart, ← hrest, String.toList_ofList]
  · rintro rfl
    refine ⟨requester.toList, ⟨releaseChannelStart.toList, ?_, beq_self_eq_true _⟩,
      String.ofList_toList⟩
    rw [releaseChannel, String.toList_append]

namespace Coordinator

/-- A return that comes in on a channel. -/
def returnOn (channel : String) (only : Option Nat) : Move :=
  match requesterOf? channel with
  | some requester => .giveBack requester only
  | none => .nothing

/-- What an input asks of the semaphore. -/
def Input.move : Input → Move
  | .message (.request requester _) => .request requester
  | .message (.release channel only) => returnOn channel only
  | .message (.resize size) => .resize size
  | .message (.cancel requester) => .withdraw requester
  | .message .status => .nothing
  | .message .allocation => .nothing
  | .expiry e => returnOn e.channel (some e.lease)

variable {c c' : Coordinator} {s : Semaphore} {clock : Readings} {reach : String → Bool}

/-- The coordinator is in a state of the semaphore. -/
structure Refines (c : Coordinator) (s : Semaphore) : Prop where
  capacity_eq : c.pool.target = s.capacity
  holders_eq : c.pool.grants.keys.toFinset = s.holders
  queue_eq : c.pool.queue.map Pending.requester = s.queue
  offers_eq : c.nextLease = s.offers
  permit_eq : ∀ (channel : String) (l : Lease), c.leases.get? channel = some l →
    s.permit l.requester = l.id

namespace Refines

theorem mem_holders_iff (h : Refines c s) (requester : String) :
    requester ∈ s.holders ↔ c.pool.grants.get? requester ≠ none := by
  rw [← h.holders_eq, List.mem_toFinset, ne_eq, Assoc.get?_eq_none_iff, not_not]

theorem card_holders (h : Refines c s) (hc : c.Sound) :
    s.holders.card = c.pool.grants.length := by
  rw [← h.holders_eq, List.toFinset_card_of_nodup hc.pool.keys_nodup]
  exact List.length_map _

/-- The coordinator has as many free slots as the semaphore has room. -/
theorem free_eq (h : Refines c s) (hc : c.Sound) :
    c.pool.free = s.capacity - s.holders.card := by
  rw [h.card_holders hc, ← h.capacity_eq, hc.pool.free_eq]

theorem hasRoom_iff (h : Refines c s) (hc : c.Sound) : s.HasRoom ↔ 0 < c.pool.free := by
  have hfree := h.free_eq hc
  unfold Semaphore.HasRoom
  omega

theorem knows_iff (h : Refines c s) (requester : String) :
    c.pool.Knows requester ↔ requester ∈ s.holders ∨ requester ∈ s.queue := by
  rw [Pool.Knows, List.mem_append, ← h.holders_eq, ← h.queue_eq, List.mem_toFinset]

theorem settled_iff (h : Refines c s) (hc : c.Sound) :
    c.Settled ↔ ¬ s.HasRoom ∨ s.queue = [] := by
  rw [h.hasRoom_iff hc, ← h.queue_eq, List.map_eq_nil_iff, Settled]
  exact or_congr_left (by omega)

theorem withQueue (h : Refines c s) {queue : List Pending} {names : List String}
    (hnames : queue.map Pending.requester = names) :
    Refines (c.withQueue queue) (s.withQueue names) :=
  ⟨h.capacity_eq, h.holders_eq, hnames, h.offers_eq, h.permit_eq⟩

/-! ### Offers -/

theorem offer {requester : String} {effects : List Effect} (h : Refines c s) (hc : c.Sound)
    (hnew : ¬ c.pool.Knows requester) (hoffer : Offer clock reach c requester effects c') :
    Refines c' (s.offer reach requester).1 ∧
      effects.filterMap Effect.attempt? = [(s.offer reach requester).2] := by
  have hgrant := ((Pool.Accounted.not_knows_iff c.pool requester).mp hnew).1
  cases hoffer with
  | granted index t hfirst hreach =>
    simp only [Semaphore.offer, hreach, if_true]
    refine ⟨⟨h.capacity_eq, ?_, h.queue_eq, congrArg (· + 1) h.offers_eq, ?_⟩, ?_⟩
    · have hkeys : (c.granted clock index requester).pool.grants.keys =
          c.pool.grants.keys ++ [requester] := List.map_append
      rw [hkeys, List.toFinset_append, h.holders_eq, Finset.union_comm]
      rfl
    · intro channel l hl
      rw [granted_leases] at hl
      by_cases hchannel : releaseChannel requester = channel
      · rw [if_pos hchannel, Option.some.injEq] at hl
        rw [← hl]
        simpa using h.offers_eq.symm
      · rw [if_neg hchannel] at hl
        have hother : l.requester ≠ requester := by
          rintro rfl
          exact hchannel (hc.grant_of_lease channel l hl).1.symm
        show Function.update s.permit requester s.offers l.requester = l.id
        rw [Function.update_of_ne hother]
        exact h.permit_eq channel l hl
    · rw [← h.offers_eq]
      rfl
  | refused index t hfirst hreach =>
    simp only [Semaphore.offer, hreach, Bool.false_eq_true, if_false]
    refine ⟨⟨h.capacity_eq, h.holders_eq, h.queue_eq, congrArg (· + 1) h.offers_eq,
      h.permit_eq⟩, ?_⟩
    rw [← h.offers_eq]
    rfl

theorem drain_of_settled (h : Refines c s) (hc : c.Sound) (hsettled : c.Settled) :
    s.drain reach = (s, []) := by
  rcases (h.settled_iff hc).mp hsettled with hfull | hqueue
  · exact Semaphore.drain_of_not_hasRoom hfull
  · exact Semaphore.drain_of_queue_eq_nil hqueue

/-- Serving the waiting list goes the same way on both sides. -/
theorem drain {effects : List Effect} (h : Refines c s) (hc : c.Sound)
    (hdrain : Drained clock reach c effects c') :
    Refines c' (s.drain reach).1 ∧ effects.filterMap Effect.attempt? = (s.drain reach).2 := by
  induction hdrain generalizing s with
  | done hrest =>
    rw [h.drain_of_settled hc hrest]
    exact ⟨h, rfl⟩
  | @serve c c' c'' r rest effects more hfree hqueue hoffer hmore ih =>
    have hnames : s.queue = r.requester :: rest.map Pending.requester := by
      rw [← h.queue_eq, hqueue, List.map_cons]
    obtain ⟨hpopped, hnew⟩ := hc.dequeue hqueue
    obtain ⟨hoffered, hattempt⟩ := (h.withQueue rfl).offer hpopped hnew hoffer
    obtain ⟨hserved, hattempts⟩ := ih hoffered (hoffer.sound hpopped hfree hnew)
    rw [Semaphore.drain_of_queue_eq_cons hnames ((h.hasRoom_iff hc).mpr hfree)]
    refine ⟨hserved, ?_⟩
    rw [List.filterMap_append, hattempt, hattempts]
    rfl

/-! ### Returns -/

/-- The return of the permit that a requester holds. -/
theorem step_returnOn {channel : String} {only : Option Nat} {l : Lease} (h : Refines c s)
    (hc : c.Sound) (hlease : c.leases.get? channel = some l)
    (honly : ∀ k : Nat, only = some k → k = l.id) :
    s.step reach (returnOn channel only) =
      ({ s with holders := s.holders.erase l.requester } : Semaphore).drain reach := by
  obtain ⟨hchannel, hgrant⟩ := hc.grant_of_lease channel l hlease
  have hholds : l.requester ∈ s.holders := by
    rw [h.mem_holders_iff, hgrant]
    exact Option.some_ne_none _
  have hmeant : only = none ∨ only = some (s.permit l.requester) := by
    rw [h.permit_eq channel l hlease]
    cases only with
    | none => exact Or.inl rfl
    | some k => exact Or.inr (congrArg some (honly k rfl))
  rw [returnOn, (requesterOf?_eq_some_iff channel l.requester).mpr hchannel]
  exact if_pos ⟨hholds, hmeant⟩

/-- A return on a channel without a lease, or of another permit than the one held. -/
theorem step_returnOn_of_stray {channel : String} {only : Option Nat} (h : Refines c s)
    (hc : c.Sound)
    (hstray : ∀ l : Lease, c.leases.get? channel = some l → ∃ k, only = some k ∧ k ≠ l.id) :
    s.step reach (returnOn channel only) = (s, []) := by
  unfold returnOn
  cases howner : requesterOf? channel with
  | none => rfl
  | some requester =>
    have hchannel := (requesterOf?_eq_some_iff channel requester).mp howner
    refine if_neg ?_
    rintro ⟨hholds, hmeant⟩
    obtain ⟨i, hgrant⟩ := Option.ne_none_iff_exists'.mp ((h.mem_holders_iff requester).mp hholds)
    obtain ⟨l, hl, hrequester, -⟩ := hc.lease_of_grant requester i hgrant
    rw [← hchannel] at hl
    obtain ⟨k, rfl, hne⟩ := hstray l hl
    have hpermit := h.permit_eq channel l hl
    rw [hrequester] at hpermit
    rcases hmeant with hnone | hsome
    · cases hnone
    · exact hne ((Option.some.inj hsome).trans hpermit)

theorem closed {channel : String} {l : Lease} (h : Refines c s) :
    Refines (c.closed channel l) { s with holders := s.holders.erase l.requester } := by
  refine ⟨?_, ?_, ?_, h.offers_eq, ?_⟩
  · rw [← h.capacity_eq]
    exact Pool.tidy_target _
  · have hkeys : (c.closed channel l).pool.grants.keys.toFinset =
        (c.pool.grants.keys.filter fun k => k ≠ l.requester).toFinset := by
      rw [closed_grants, Assoc.keys_erase]
    rw [hkeys, ← h.holders_eq]
    ext requester
    simp [and_comm]
  · rw [← h.queue_eq]
    exact congrArg (List.map Pending.requester) (Pool.tidy_queue _)
  · intro other l' hl'
    rw [closed_leases] at hl'
    split at hl'
    · cases hl'
    · exact h.permit_eq other l' hl'

theorem cancelWatcher (h : Refines c s) (lease : Nat) : Refines (c.cancelWatcher lease) s :=
  ⟨h.capacity_eq, h.holders_eq, h.queue_eq, h.offers_eq, h.permit_eq⟩

/-! ### Steps -/

/-- A change of the coordinator is one of the semaphore, with the same attempts. -/
theorem changed {input : Input} {effects : List Effect} (h : Refines c s) (hc : c.Sound)
    (hsettled : c.Settled) (hchange : Changed clock reach c input effects c') :
    ∃ s', Refines c' s' ∧ s.step reach input.move =
      ((s'.drain reach).1, effects.filterMap Effect.attempt? ++ (s'.drain reach).2) := by
  have hidle : s.drain reach = (s, []) := h.drain_of_settled hc hsettled
  have hnew {requester : String} (hknown : ¬ c.pool.Knows requester) :
      requester ∉ s.holders ∧ requester ∉ s.queue := by
    rwa [h.knows_iff, not_or] at hknown
  cases hchange with
  | duplicate requester priority hknown =>
    refine ⟨s, h, ?_⟩
    rw [hidle]
    exact if_pos ((h.knows_iff requester).mp hknown)
  | admitted requester priority hknown | queued requester priority hknown =>
    obtain ⟨hholders, hwaits⟩ := hnew hknown
    refine ⟨s.withQueue (s.queue ++ [requester]), h.withQueue ?_, ?_⟩
    · rw [List.map_append, h.queue_eq]
      rfl
    · exact Semaphore.step_request hholders hwaits ((h.settled_iff hc).mp hsettled)
  | released hlease honly hnotes =>
    refine ⟨_, (h.cancelWatcher _).closed, (h.step_returnOn hc hlease honly).trans ?_⟩
    rw [List.filterMap_cons_none rfl, filterMap_closing fun _ => rfl]
    rfl
  | @expired channel l notes hlease hnotes =>
    have honly : ∀ k : Nat, some l.id = some k → k = l.id := fun k hk => (Option.some.inj hk).symm
    refine ⟨_, h.closed, (h.step_returnOn hc hlease honly).trans ?_⟩
    rw [filterMap_closing fun _ => rfl]
    rfl
  | strayRelease channel only n hstray hn =>
    refine ⟨s, h, (h.step_returnOn_of_stray hc hstray).trans ?_⟩
    rw [hidle]
    rfl
  | strayExpiry e hstray =>
    have hother : ∀ l : Lease, c.leases.get? e.channel = some l →
        ∃ k, some e.lease = some k ∧ k ≠ l.id := fun l hl => ⟨_, rfl, (hstray l hl).symm⟩
    refine ⟨s, h, (h.step_returnOn_of_stray hc hother).trans ?_⟩
    rw [hidle]
    rfl
  | resizeRejected | status | allocation =>
    refine ⟨s, h, ?_⟩
    rw [hidle]
    rfl
  | @resized size slots outcome hsize hresize hrefit =>
    refine ⟨{ s with capacity := size },
      ⟨rfl, h.holders_eq, h.queue_eq, h.offers_eq, h.permit_eq⟩, ?_⟩
    exact if_neg (Nat.ne_of_gt hsize)
  | withdrawn requester hwaits =>
    have hlist := Pool.map_requester_eraseP c.pool.queue requester
    rw [h.queue_eq] at hlist hwaits
    have hfull : ¬ (s.withQueue (s.queue.erase requester)).HasRoom :=
      ((h.settled_iff hc).mp hsettled).resolve_right (List.ne_nil_of_mem hwaits)
    refine ⟨_, h.withQueue hlist, (if_pos hwaits).trans ?_⟩
    rw [Semaphore.drain_of_not_hasRoom hfull]
    cases reach requester <;> rfl
  | notWaiting requester hgone =>
    rw [h.queue_eq] at hgone
    refine ⟨s, h, (if_neg hgone).trans ?_⟩
    rw [hidle]
    rfl

theorem step {input : Input} {effects : List Effect} (h : Refines c s) (hc : c.Resting)
    (hstep : Stepped clock reach c input effects c') :
    Refines c' (s.step reach input.move).1 ∧
      effects.filterMap Effect.attempt? = (s.step reach input.move).2 := by
  cases hstep with
  | intro hchange hdrain =>
    obtain ⟨s', hchanged, heq⟩ := h.changed hc.toSound hc.settled hchange
    obtain ⟨hserved, hattempts⟩ := hchanged.drain (hchange.sound hc.toSound) hdrain
    rw [heq, List.filterMap_append, hattempts]
    exact ⟨hserved, rfl⟩

theorem run (h : Refines c s) (hc : c.Resting) (os : List Occasion) :
    Refines (c.run os).1 (s.run (os.map fun o => (o.reach, o.input.move))).1 ∧
      (c.run os).2.filterMap Effect.attempt? =
        (s.run (os.map fun o => (o.reach, o.input.move))).2 := by
  induction os generalizing c s with
  | nil => exact ⟨h, rfl⟩
  | cons o os ih =>
    obtain ⟨hstep, hattempts⟩ := h.step hc (hc.stepped o)
    obtain ⟨hrun, hmore⟩ := ih hstep (hc.step o)
    refine ⟨hrun, ?_⟩
    rw [run_cons, List.filterMap_append, hattempts, hmore]
    rfl

end Refines

theorem refines_create {name : PoolName} {options : PoolOptions} {now : Readings} {e : Event}
    (h : create name options now = .ok (c, e)) : Refines c (.new options.size) := by
  obtain ⟨-, rfl, -⟩ := create_eq_ok h
  refine ⟨?_, rfl, rfl, rfl, ?_⟩
  · exact Provisioner.length_stock _ _ _ _
  · intro channel l hl
    cases hl

/-- What can be seen of a coordinator is a function of the semaphore: whom it knows, how many slots
are free, and how many are in service. -/
structure Mirrors (c : Coordinator) (s : Semaphore) : Prop where
  target_eq : c.pool.target = s.capacity
  keys_eq : c.pool.grants.keys.toFinset = s.holders
  waiting_eq : c.pool.queue.map Pending.requester = s.queue
  free_eq : c.pool.free = s.capacity - s.holders.card
  inService_eq : c.pool.inService = max s.capacity s.holders.card
  full_of_waiting : s.queue ≠ [] → s.capacity ≤ s.holders.card

theorem Refines.mirrors (h : Refines c s) (hc : c.Resting) : Mirrors c s where
  target_eq := h.capacity_eq
  keys_eq := h.holders_eq
  waiting_eq := h.queue_eq
  free_eq := h.free_eq hc.toSound
  inService_eq := by
    rw [hc.pool.inService_eq, h.capacity_eq, h.card_holders hc.toSound]
  full_of_waiting hwaits := by
    have hfull := ((h.settled_iff hc.toSound).mp hc.settled).resolve_right hwaits
    exact Nat.le_of_not_lt hfull

/-- In every run the coordinator of a pool attempts what a semaphore of the pool's size attempts,
and it mirrors the semaphore. -/
theorem create_run_mirrors (name : PoolName) (options : PoolOptions) (now : Readings)
    (hsize : 0 < options.size) :
    ∃ c e, create name options now = .ok (c, e) ∧ ∀ os : List Occasion,
      let result := (Semaphore.new options.size).run (os.map fun o => (o.reach, o.input.move))
      (c.run os).2.filterMap Effect.attempt? = result.2 ∧ Mirrors (c.run os).1 result.1 := by
  obtain ⟨c, e, hcreate⟩ := exists_create name now hsize
  have hresting := resting_create hcreate
  refine ⟨c, e, hcreate, fun os => ?_⟩
  obtain ⟨hrefines, hattempts⟩ := (refines_create hcreate).run hresting os
  exact ⟨hattempts, hrefines.mirrors (hresting.run os)⟩

/-- The case of a pool with one slot. -/
theorem create_run_mirrors_one :
    0 < (PoolOptions.mk 1 none .plain 1000).size ∧
      ∃ c e, create ⟨"space", "disk"⟩ ⟨1, none, .plain, 1000⟩ default = .ok (c, e) ∧
        ∀ os : List Occasion,
          let result := (Semaphore.new 1).run (os.map fun o => (o.reach, o.input.move))
          (c.run os).2.filterMap Effect.attempt? = result.2 ∧ Mirrors (c.run os).1 result.1 :=
  ⟨by decide, create_run_mirrors _ _ _ (by decide)⟩

end Coordinator

end LeasePool
