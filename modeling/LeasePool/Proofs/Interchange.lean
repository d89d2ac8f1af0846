import LeasePool.Proofs.Extent
import LeasePool.Proofs.Standing

/-!
Leases in whatever order. When some leases end one after the other, the order decides which slots go
out of service and at which step somebody is served, but nothing of that shows: how many slots are
free after each step depends on how many leases have ended, so that the same requests are taken off
the waiting list. Who holds a slot in the end is said by who was reached and whose leases ended.
-/
namespace LeasePool

namespace Semaphore

/-- The requester to whom a permit was granted. -/
def Attempt.admitted? : Attempt → Option String
  | .grant requester _ true => some requester
  | _ => none

end Semaphore

namespace Coordinator

open Semaphore (Attempt)

variable {c c' d d' : Coordinator} {clock clock' : Readings} {reach : String → Bool} {l m : Lease}
  {requests requests' : List Pending} {effects effects' : List Effect}

/-- The leases are tracked, and none is listed twice. -/
structure Outstanding (c : Coordinator) (ls : List Lease) : Prop where
  nodup : ls.Nodup
  tracked : ∀ l ∈ ls, c.leases.get? (releaseChannel l.requester) = some l

/-- A lease is ended, for whatever reason, and responses reach the given requesters then. -/
structure Occasion.Returns (reach : String → Bool) (o : Occasion) (l : Lease) : Prop where
  reach_eq : o.reach = reach
  ends : ∃ reason, Ends (releaseChannel l.requester) l.id o.input reason

/-- The coordinators agree on all that does not tell who holds which slot. -/
structure Abreast (c d : Coordinator) : Prop where
  queue_eq : d.pool.queue = c.pool.queue
  target_eq : d.pool.target = c.pool.target
  total_eq : d.pool.total = c.pool.total
  granted_eq : d.pool.grantedCount = c.pool.grantedCount
  nextLease_eq : d.nextLease = c.nextLease

/-! ### Serving -/

theorem requesters_dealt {indices : List Nat} (first : Nat)
    (henough : reached reach requests ≤ indices.length) :
    (dealt clock reach first indices requests).map Lease.requester =
      (requests.filter fun r => reach r.requester).map Pending.requester := by
  induction requests generalizing first indices with
  | nil => rfl
  | cons r rest ih =>
    rw [reached_cons] at henough
    cases hreach : reach r.requester with
    | false =>
      rw [hreach] at henough
      rw [dealt_cons_of_not_reached hreach, List.filter_cons_of_neg (by simp [hreach])]
      exact ih _ henough
    | true =>
      rw [hreach, if_pos rfl] at henough
      cases indices with
      | nil => exact absurd henough (Nat.not_succ_le_zero _)
      | cons index indices =>
        rw [dealt_cons_of_reached hreach, List.filter_cons_of_pos (by simp [hreach]),
          List.map_cons, List.map_cons, ih _ (Nat.le_of_succ_le_succ henough)]

theorem admitted_attempts (reach : String → Bool) (requests : List Pending) (first : Nat) :
    ((requests.zipIdx first).map fun e =>
        Attempt.grant e.1.requester e.2 (reach e.1.requester)).filterMap Attempt.admitted? =
      (requests.filter fun r => reach r.requester).map Pending.requester := by
  induction requests generalizing first with
  | nil => rfl
  | cons r rest ih =>
    rw [List.zipIdx_cons, List.map_cons]
    cases hreach : reach r.requester with
    | false =>
      rw [List.filter_cons_of_neg (by simp [hreach]), List.filterMap_cons_none rfl]
      exact ih _
    | true =>
      have hhead : Attempt.admitted? (.grant r.requester first true) = some r.requester := rfl
      rw [List.filter_cons_of_pos (by simp [hreach]), List.filterMap_cons_some hhead, ih]
      rfl

namespace Served

/-- Those who were reached join the holders. -/
theorem keys_eq (h : Served clock reach c requests effects c') :
    c'.pool.grants.keys = c.pool.grants.keys ++
      (requests.filter fun r => reach r.requester).map Pending.requester := by
  have henough : reached reach requests ≤ c.openings.length := by
    rw [← h.all_dealt, dealt, List.length_zipWith]
    exact Nat.min_le_right _ _
  have hkeys : c'.pool.grants.keys = c.pool.grants.keys ++
      (dealt clock reach c.nextLease c.openings requests).map Lease.requester := by
    rw [h.outcome]
    simp [afterRounds, Assoc.keys]
  rw [hkeys, requesters_dealt _ henough]

theorem admitted_eq (h : Served clock reach c requests effects c') :
    (effects.filterMap Effect.attempt?).filterMap Attempt.admitted? =
      (requests.filter fun r => reach r.requester).map Pending.requester := by
  rw [h.attempts_eq, admitted_attempts]

theorem knows {q : String} (h : Served clock reach c requests effects c')
    (hknown : c'.pool.Knows q) : c.pool.Knows q := by
  rw [Pool.Knows, h.keys_eq] at hknown
  rw [Pool.Knows, h.queue_eq, List.map_append]
  rcases List.mem_append.mp hknown with hkey | hwaits
  · rcases List.mem_append.mp hkey with hold | hnew
    · exact List.mem_append_left _ hold
    · obtain ⟨r, hr, rfl⟩ := List.mem_map.mp hnew
      have hrequest := List.mem_map_of_mem (f := Pending.requester) (List.mem_of_mem_filter hr)
      exact List.mem_append_right _ (List.mem_append_left _ hrequest)
  · exact List.mem_append_right _ (List.mem_append_right _ hwaits)

/-- Once as many were reached as there are openings, nobody else is served. -/
theorem eq_nil_of_append {extra : List Pending} (h : Served clock reach c requests effects c')
    (h' : Served clock' reach d (requests ++ extra) effects' d')
    (hqueue : d.pool.queue = c.pool.queue) (hcount : d.openings.length = c.openings.length) :
    extra = [] := by
  cases extra with
  | nil => rfl
  | cons r after =>
    have hshort := h'.shortest requests after r rfl
    have hleft : c'.pool.queue = r :: after ++ d'.pool.queue := by
      have hsplit := h.queue_eq.symm.trans (hqueue.symm.trans h'.queue_eq)
      rw [List.append_assoc] at hsplit
      exact List.append_cancel_left hsplit
    -- the first list of requests was all there was, or it filled the openings
    rcases h.enough with hempty | hfull
    · rw [hempty] at hleft
      cases hleft
    · omega

theorem requests_eq (h : Served clock reach c requests effects c')
    (h' : Served clock' reach d requests' effects' d') (hqueue : d.pool.queue = c.pool.queue)
    (hcount : d.openings.length = c.openings.length) : requests' = requests := by
  have hsplit := h.queue_eq.symm.trans (hqueue.symm.trans h'.queue_eq)
  rcases List.append_eq_append_iff.mp hsplit with ⟨extra, rfl, -⟩ | ⟨extra, rfl, -⟩
  · rw [h.eq_nil_of_append h' hqueue hcount, List.append_nil]
  · rw [h'.eq_nil_of_append h hqueue.symm hcount.symm, List.append_nil]

end Served

namespace Abreast

theorem free_eq (h : Abreast c d) (hc : c.Sound) (hd : d.Sound) : d.pool.free = c.pool.free := by
  have hcount : d.pool.grants.length = c.pool.grants.length := h.granted_eq
  rw [hc.pool.free_eq, hd.pool.free_eq, h.target_eq, hcount]

/-- So many requests are taken and so many leases handed out by both. -/
theorem afterRounds (h : Abreast c d) (n : Nat) {leases leases' : List Lease}
    (hlength : leases'.length = leases.length) :
    Abreast (c.afterRounds clock n leases) (d.afterRounds clock' n leases') where
  queue_eq := congrArg (List.drop n) h.queue_eq
  target_eq := h.target_eq
  total_eq := (length_handOut _ _ _).trans (h.total_eq.trans (length_handOut _ _ _).symm)
  granted_eq := by
    have hgranted := h.granted_eq
    unfold Pool.grantedCount at hgranted
    simp only [Pool.grantedCount, Coordinator.afterRounds, List.length_append, List.length_map,
      hlength, hgranted]
  nextLease_eq := congrArg (· + n) h.nextLease_eq

/-- Both serve the same requests. -/
theorem served (h : Abreast c d) (hc : c.Sound) (hd : d.Sound)
    (hserved : Served clock reach c requests effects c')
    (hserved' : Served clock' reach d requests' effects' d') :
    Abreast c' d' ∧ effects.filterMap Effect.attempt? = effects'.filterMap Effect.attempt? := by
  have hcount : d.openings.length = c.openings.length := by
    rw [hc.length_openings, hd.length_openings, h.free_eq hc hd]
  obtain rfl := hserved.requests_eq hserved' h.queue_eq hcount
  constructor
  · rw [hserved.outcome, hserved'.outcome]
    exact h.afterRounds _ (hserved'.all_dealt.trans hserved.all_dealt.symm)
  · rw [hserved.attempts_eq, hserved'.attempts_eq, h.nextLease_eq]

end Abreast

/-! ### Ending a lease -/

/-- A step that ends a lease gives back its slot and then serves the waiting list. -/
theorem Stepped.returned {input : Input} {reason : ReleaseReason}
    (hstep : Stepped clock reach c input effects c') (h : c.Sound)
    (hlease : c.leases.get? (releaseChannel l.requester) = some l)
    (hends : Ends (releaseChannel l.requester) l.id input reason) :
    ∃ c₁ more requests, c₁.pool = (c.closed (releaseChannel l.requester) l).pool ∧
      c₁.nextLease = c.nextLease ∧ c₁.Sound ∧ Served clock reach c₁ requests more c' ∧
      effects.filterMap Effect.attempt? = more.filterMap Effect.attempt? := by
  cases hstep with
  | @intro first more c₁ c' hchange hdrain =>
    have hsound := hchange.sound h
    obtain ⟨requests, -, hserved⟩ := hdrain.served hsound
    suffices hclosed : c₁.pool = (c.closed (releaseChannel l.requester) l).pool ∧
        c₁.nextLease = c.nextLease ∧ first.filterMap Effect.attempt? = [] by
      obtain ⟨hpool, hnext, hnone⟩ := hclosed
      exact ⟨c₁, more, requests, hpool, hnext, hsound, hserved, by simp [hnone]⟩
    cases hends with
    | release only honly =>
      cases hchange with
      | released hfound hmeant hnotes =>
        obtain rfl := Option.some.inj (hlease.symm.trans hfound)
        refine ⟨rfl, rfl, ?_⟩
        rw [List.filterMap_cons_none rfl, filterMap_closing fun _ => rfl]
        rfl
      | strayRelease _ _ n hstray hn =>
        obtain ⟨k, hk, hne⟩ := hstray l hlease
        exact absurd (honly k hk) hne
    | expiry =>
      generalize hid : l.id = lease at hchange
      cases hchange with
      | expired hfound hnotes =>
        obtain rfl := Option.some.inj (hlease.symm.trans hfound)
        refine ⟨rfl, rfl, ?_⟩
        rw [filterMap_closing fun _ => rfl]
        rfl
      | strayExpiry _ hstray => exact absurd hid (hstray l hlease)

theorem closed_queue (c : Coordinator) (channel : String) (l : Lease) :
    (c.closed channel l).pool.queue = c.pool.queue := Pool.tidy_queue _

theorem closed_target (c : Coordinator) (channel : String) (l : Lease) :
    (c.closed channel l).pool.target = c.pool.target := Pool.tidy_target _

theorem closed_keys (c : Coordinator) (channel : String) (l : Lease) :
    (c.closed channel l).pool.grants.keys =
      c.pool.grants.keys.filter fun requester => requester ≠ l.requester := by
  rw [closed_grants, Assoc.keys_erase]

/-- Whoever is known when a lease has ended was known before, and it is not the holder. -/
theorem Sound.knows_closed {q : String} (h : c.Sound)
    (hlease : c.leases.get? (releaseChannel l.requester) = some l)
    (hknown : (c.closed (releaseChannel l.requester) l).pool.Knows q) :
    c.pool.Knows q ∧ q ≠ l.requester := by
  rw [Pool.Knows, closed_keys, closed_queue] at hknown
  rcases List.mem_append.mp hknown with hkey | hwaits
  · obtain ⟨hold, hne⟩ := List.mem_filter.mp hkey
    exact ⟨List.mem_append_left _ hold, of_decide_eq_true hne⟩
  · refine ⟨List.mem_append_right _ hwaits, ?_⟩
    rintro rfl
    exact List.disjoint_of_nodup_append h.pool.known_nodup (h.mem_keys hlease) hwaits

theorem Sound.grantedCount_closed (h : c.Sound)
    (hlease : c.leases.get? (releaseChannel l.requester) = some l) :
    (c.closed (releaseChannel l.requester) l).pool.grantedCount + 1 = c.pool.grantedCount := by
  rw [Pool.grantedCount, closed_grants]
  exact Assoc.length_erase h.pool.keys_nodup (h.grant_of_lease _ l hlease).2

/-- The array is cut to the target with the last slot that is given back. -/
theorem Sound.total_closed (h : c.Sound)
    (hlease : c.leases.get? (releaseChannel l.requester) = some l) :
    (c.closed (releaseChannel l.requester) l).pool.total =
      if c.pool.grantedCount = 1 then c.pool.target else c.pool.total := by
  have hsound := h.closed hlease
  have hcount := h.grantedCount_closed hlease
  unfold Pool.grantedCount at hcount ⊢
  split
  case isTrue hone =>
    have hidle : (c.closed (releaseChannel l.requester) l).pool.grants = [] :=
      List.length_eq_zero_iff.mp (by omega)
    exact (hsound.pool.slots_of_idle hidle).1.trans (c.closed_target _ l)
  case isFalse hmany =>
    have hbusy : (c.closed (releaseChannel l.requester) l).pool.grants ≠ [] := by
      intro hidle
      rw [hidle, List.length_nil] at hcount
      omega
    exact (Pool.total_tidy_of_busy hbusy).trans (Pool.length_vacate _ _ _)

/-- Two coordinators that are abreast stay so, whichever lease of theirs ends. -/
theorem Abreast.stepped {reach' : String → Bool} {input input' : Input}
    {reason reason' : ReleaseReason} (h : Abreast c d) (hc : c.Sound) (hd : d.Sound)
    (hreach : reach' = reach)
    (hlease : c.leases.get? (releaseChannel l.requester) = some l)
    (hlease' : d.leases.get? (releaseChannel m.requester) = some m)
    (hends : Ends (releaseChannel l.requester) l.id input reason)
    (hends' : Ends (releaseChannel m.requester) m.id input' reason')
    (hstep : Stepped clock reach c input effects c')
    (hstep' : Stepped clock' reach' d input' effects' d') :
    Abreast c' d' ∧ effects.filterMap Effect.attempt? = effects'.filterMap Effect.attempt? := by
  subst hreach
  obtain ⟨c₁, more, requests, hpool, hnext, hsound, hserved, hattempts⟩ :=
    hstep.returned hc hlease hends
  obtain ⟨d₁, more', requests', hpool', hnext', hsound', hserved', hattempts'⟩ :=
    hstep'.returned hd hlease' hends'
  have hclosed : Abreast c₁ d₁ := by
    have hcount := hc.grantedCount_closed hlease
    have hcount' := hd.grantedCount_closed hlease'
    have hgranted := h.granted_eq
    refine ⟨?_, ?_, ?_, ?_, hnext'.trans (h.nextLease_eq.trans hnext.symm)⟩
    · rw [hpool, hpool', closed_queue, closed_queue, h.queue_eq]
    · rw [hpool, hpool', closed_target, closed_target, h.target_eq]
    · rw [hpool, hpool', hc.total_closed hlease, hd.total_closed hlease', h.granted_eq,
        h.target_eq, h.total_eq]
    · rw [hpool, hpool']
      omega
  obtain ⟨hboth, hmore⟩ := hclosed.served hsound hsound' hserved hserved'
  exact ⟨hboth, by rw [hattempts, hattempts', hmore]⟩

/-- Who holds a slot after a step that ends a lease, besides the old holder. -/
theorem Stepped.holders_eq {input : Input} {reason : ReleaseReason}
    (hstep : Stepped clock reach c input effects c') (h : c.Sound)
    (hlease : c.leases.get? (releaseChannel l.requester) = some l)
    (hends : Ends (releaseChannel l.requester) l.id input reason) :
    insert l.requester c'.pool.grants.keys.toFinset = c.pool.grants.keys.toFinset ∪
        ((effects.filterMap Effect.attempt?).filterMap Attempt.admitted?).toFinset ∧
      ∀ q, c'.pool.Knows q → c.pool.Knows q ∧ q ≠ l.requester := by
  obtain ⟨c₁, more, requests, hpool, -, -, hserved, hattempts⟩ := hstep.returned h hlease hends
  have hmem := h.mem_keys hlease
  constructor
  · rw [hattempts, hserved.admitted_eq, hserved.keys_eq, hpool, closed_keys]
    ext q
    by_cases hq : q = l.requester
    · simp [hq, hmem]
    · simp [hq]
  · intro q hknown
    have hbefore := hserved.knows hknown
    rw [hpool] at hbefore
    exact h.knows_closed hlease hbefore

/-! ### Ending several leases -/

theorem Ends.channel_eq {channel channel' : String} {lease lease' : Nat} {input : Input}
    {reason reason' : ReleaseReason} (h : Ends channel lease input reason)
    (h' : Ends channel' lease' input reason') : channel = channel' := by
  cases h <;> cases h' <;> rfl

/-- The end of one lease leaves the others. -/
theorem Outstanding.stepped {ls : List Lease} {input : Input} {reason : ReleaseReason}
    (h : c.Outstanding (l :: ls)) (hc : c.Sound)
    (hends : Ends (releaseChannel l.requester) l.id input reason)
    (hstep : Stepped clock reach c input effects c') : c'.Outstanding ls := by
  obtain ⟨hnew, hnodup⟩ := List.nodup_cons.mp h.nodup
  refine ⟨hnodup, fun m hm => ?_⟩
  have htracked := h.tracked m (List.mem_cons_of_mem l hm)
  obtain ⟨r, hheld⟩ := hc.exists_holds htracked
  have hquiet (reason' : ReleaseReason) :
      ¬ Ends (releaseChannel m.requester) m.id input reason' := by
    intro hends'
    have hfirst := h.tracked l List.mem_cons_self
    rw [hends.channel_eq hends', htracked, Option.some.injEq] at hfirst
    exact hnew (hfirst ▸ hm)
  exact (hheld.stepped hc hquiet hstep).1.lease

theorem Outstanding.run {ls : List Lease} {os : List Occasion} (h : c.Outstanding ls)
    (hc : c.Resting) (hreturns : List.Forall₂ (Occasion.Returns reach) os ls) :
    (c.run os).1.pool.grants.keys.toFinset ∪ (ls.map Lease.requester).toFinset =
        c.pool.grants.keys.toFinset ∪
          (((c.run os).2.filterMap Effect.attempt?).filterMap Attempt.admitted?).toFinset ∧
      ∀ q, (c.run os).1.pool.Knows q → c.pool.Knows q ∧ q ∉ ls.map Lease.requester := by
  induction hreturns generalizing c with
  | nil => exact ⟨rfl, fun q hknown => ⟨hknown, List.not_mem_nil⟩⟩
  | @cons o l os ls hfirst hrest ih =>
    obtain ⟨reason, hends⟩ := hfirst.ends
    have hstep := hc.stepped o
    obtain ⟨hnow, hknows⟩ := hstep.holders_eq hc.toSound (h.tracked l List.mem_cons_self) hends
    obtain ⟨hlater, hknown⟩ := ih (h.stepped hc.toSound hends hstep) (hc.step o)
    rw [run_cons]
    constructor
    · rw [List.map_cons, List.toFinset_cons, Finset.union_insert, hlater, ← Finset.insert_union,
        hnow, Finset.union_assoc, ← List.toFinset_append, ← List.filterMap_append,
        ← List.filterMap_append]
    · intro q hq
      obtain ⟨hafter, hnone⟩ := hknown q hq
      obtain ⟨hbefore, hne⟩ := hknows q hafter
      refine ⟨hbefore, ?_⟩
      rw [List.map_cons, List.mem_cons, not_or]
      exact ⟨hne, hnone⟩

/-- In the end those hold a slot who did or were admitted, without those whose leases ended. -/
theorem Outstanding.holders_eq {ls : List Lease} {os : List Occasion} (h : c.Outstanding ls)
    (hc : c.Resting) (hreturns : List.Forall₂ (Occasion.Returns reach) os ls) :
    (c.run os).1.pool.grants.keys.toFinset = (c.pool.grants.keys.toFinset ∪
        (((c.run os).2.filterMap Effect.attempt?).filterMap Attempt.admitted?).toFinset) \
      (ls.map Lease.requester).toFinset := by
  obtain ⟨hunion, hknown⟩ := h.run hc hreturns
  have hdisjoint : Disjoint (c.run os).1.pool.grants.keys.toFinset
      (ls.map Lease.requester).toFinset := by
    rw [Finset.disjoint_left]
    intro q hq hmem
    exact (hknown q (List.mem_append_left _ (List.mem_toFinset.mp hq))).2
      (List.mem_toFinset.mp hmem)
  rw [← hunion, Finset.union_sdiff_cancel_right hdisjoint]

theorem Abreast.run {ls ls' : List Lease} {os os' : List Occasion} (h : Abreast c d)
    (hc : c.Resting) (hd : d.Resting) (hout : c.Outstanding ls) (hout' : d.Outstanding ls')
    (hlength : ls.length = ls'.length) (hreturns : List.Forall₂ (Occasion.Returns reach) os ls)
    (hreturns' : List.Forall₂ (Occasion.Returns reach) os' ls') :
    Abreast (c.run os).1 (d.run os').1 ∧
      (c.run os).2.filterMap Effect.attempt? = (d.run os').2.filterMap Effect.attempt? := by
  induction hreturns generalizing c d ls' os' with
  | nil =>
    obtain rfl := List.length_eq_zero_iff.mp hlength.symm
    cases hreturns'
    exact ⟨h, rfl⟩
  | @cons o l os ls hfirst hrest ih =>
    cases hreturns' with
    | nil => cases hlength
    | @cons o' m os' ls' hfirst' hrest' =>
      obtain ⟨reason, hends⟩ := hfirst.ends
      obtain ⟨reason', hends'⟩ := hfirst'.ends
      have hstep := hc.stepped o
      have hstep' := hd.stepped o'
      obtain ⟨hboth, hattempts⟩ := h.stepped hc.toSound hd.toSound
        (hfirst'.reach_eq.trans hfirst.reach_eq.symm) (hout.tracked l List.mem_cons_self)
        (hout'.tracked m List.mem_cons_self) hends hends' hstep hstep'
      obtain ⟨hrun, hmore⟩ := ih hboth (hc.step o) (hd.step o')
        (hout.stepped hc.toSound hends hstep) (hout'.stepped hd.toSound hends' hstep')
        (Nat.succ.inj hlength) hrest'
      rw [run_cons, run_cons, List.filterMap_append, List.filterMap_append, hattempts, hmore]
      exact ⟨hrun, rfl⟩

/-- Some leases end one after the other, by whatever message or expiry and at whatever time. In
whichever order they do, the same is attempted, and the pool has the same status, holders, waiting
list and target in the end. -/
theorem create_run_interchange {name : PoolName} {options : PoolOptions} {now : Readings}
    {e : Event} (hcreate : create name options now = .ok (c, e)) (before : List Occasion)
    {ls ls' : List Lease} (hout : (c.run before).1.Outstanding ls) (hperm : ls.Perm ls')
    {first second : List Occasion} (hfirst : List.Forall₂ (Occasion.Returns reach) first ls)
    (hsecond : List.Forall₂ (Occasion.Returns reach) second ls') :
    let one := (c.run before).1.run first
    let other := (c.run before).1.run second
    one.2.filterMap Effect.attempt? = other.2.filterMap Effect.attempt? ∧
      one.1.pool.status one.1.name.resource = other.1.pool.status other.1.name.resource ∧
      one.1.pool.grants.keys.toFinset = other.1.pool.grants.keys.toFinset ∧
      one.1.pool.queue = other.1.pool.queue ∧ one.1.pool.target = other.1.pool.target := by
  have hresting := (resting_create hcreate).run before
  have hout' : (c.run before).1.Outstanding ls' :=
    ⟨hperm.nodup_iff.mp hout.nodup, fun l hl => hout.tracked l (hperm.mem_iff.mpr hl)⟩
  obtain ⟨hboth, hattempts⟩ := Abreast.run ⟨rfl, rfl, rfl, rfl, rfl⟩ hresting hresting hout hout'
    hperm.length_eq hfirst hsecond
  have hfree := hboth.free_eq (hresting.run first).toSound (hresting.run second).toSound
  have hname := (hresting.run_sameSettings first).name_eq.trans
    (hresting.run_sameSettings second).name_eq.symm
  refine ⟨hattempts, ?_, ?_, hboth.queue_eq.symm, hboth.target_eq.symm⟩
  · rw [Pool.status, Pool.status, hname, hboth.total_eq, hfree, hboth.granted_eq,
      Pool.waitingCount, Pool.waitingCount, hboth.queue_eq]
  · rw [hout.holders_eq hresting hfirst, hout'.holders_eq hresting hsecond, hattempts,
      List.toFinset_eq_of_perm _ _ (hperm.map Lease.requester)]

/-- Three slots are held, two requesters wait, the first of them in vain, and the pool is to shrink
to two. Of two leases the first that ends loses its slot, and the slot of the other goes to the
second requester. -/
theorem create_run_interchange_shrunk :
    ∃ c e one other, create ⟨"space", "disk"⟩ ⟨3, none, .plain, 1000⟩ default = .ok (c, e) ∧
      let before := [Message.request "a" 0, .request "b" 0, .request "c" 0, .request "d" 0,
        .request "e" 0, .resize 2].map fun m => (⟨default, fun _ => true, .message m⟩ : Occasion)
      let given : Occasion := ⟨default, fun requester => requester != "d",
        .message (.release (releaseChannel "a") (some 0))⟩
      let expired : Occasion := ⟨default, fun requester => requester != "d",
        .expiry ⟨releaseChannel "c", 2⟩⟩
      (c.run before).1.run [given, expired] = one ∧ (c.run before).1.run [expired, given] = other ∧
        one.1.pool.grants.get? "e" = some 2 ∧ other.1.pool.grants.get? "e" = some 0 ∧
        one.2.filterMap Effect.attempt? = [.grant "d" 3 false, .grant "e" 4 true] ∧
        one.2.filterMap Effect.attempt? = other.2.filterMap Effect.attempt? ∧
        one.1.pool.status one.1.name.resource = other.1.pool.status other.1.name.resource ∧
        one.1.pool.grants.keys.toFinset = other.1.pool.grants.keys.toFinset := by
  let c : Coordinator := ⟨⟨"space", "disk"⟩, .plain, none,
    .ofSlots (Provisioner.plain.stock ⟨"space", "disk"⟩ default 3), [], 0, []⟩
  let before := [Message.request "a" 0, .request "b" 0, .request "c" 0, .request "d" 0,
    .request "e" 0, .resize 2].map fun m => (⟨default, fun _ => true, .message m⟩ : Occasion)
  let given : Occasion := ⟨default, fun requester => requester != "d",
    .message (.release (releaseChannel "a") (some 0))⟩
  let expired : Occasion := ⟨default, fun requester => requester != "d",
    .expiry ⟨releaseChannel "c", 2⟩⟩
  let held : Lease := ⟨0, 0, "a", 0⟩
  let overdue : Lease := ⟨2, 2, "c", 0⟩
  have hcreate : create ⟨"space", "disk"⟩ ⟨3, none, .plain, 1000⟩ default =
      .ok (c, .started 3 "default") := rfl
  have hout : (c.run before).1.Outstanding [held, overdue] :=
    ⟨by decide, by decide +kernel⟩
  have hgiven : given.Returns (fun requester => requester != "d") held :=
    ⟨rfl, .released, .release (some 0) fun k hk => (Option.some.inj hk).symm⟩
  have hexpired : expired.Returns (fun requester => requester != "d") overdue :=
    ⟨rfl, .timedOut, .expiry⟩
  have hfirst : List.Forall₂ (Occasion.Returns fun requester => requester != "d")
      [given, expired] [held, overdue] := .cons hgiven (.cons hexpired .nil)
  have hsecond : List.Forall₂ (Occasion.Returns fun requester => requester != "d")
      [expired, given] [overdue, held] := .cons hexpired (.cons hgiven .nil)
  obtain ⟨hattempts, hstatus, hholders, -⟩ :=
    create_run_interchange hcreate before hout (.swap _ _ _) hfirst hsecond
  have hslot : ((c.run before).1.run [given, expired]).1.pool.grants.get? "e" = some 2 := by
    decide +kernel
  have hslot' : ((c.run before).1.run [expired, given]).1.pool.grants.get? "e" = some 0 := by
    decide +kernel
  have hserved : ((c.run before).1.run [given, expired]).2.filterMap Effect.attempt? =
      [.grant "d" 3 false, .grant "e" 4 true] := by
    decide +kernel
  obtain ⟨one, hone⟩ : ∃ one, (c.run before).1.run [given, expired] = one := ⟨_, rfl⟩
  obtain ⟨other, hother⟩ : ∃ other, (c.run before).1.run [expired, given] = other := ⟨_, rfl⟩
  rw [hone] at hslot hserved hattempts hstatus hholders
  rw [hother] at hslot' hattempts hstatus hholders
  exact ⟨c, _, one, other, hcreate, hone, hother, hslot, hslot', hserved, hattempts, hstatus,
    hholders⟩

end Coordinator

end LeasePool
