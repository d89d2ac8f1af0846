import LeasePool.Proofs.Positions
import LeasePool.Proofs.Refinement

/-!
What serving the waiting list comes to. Rounds are made until one uses up no request, and each of
the others takes the first request off the list. Requests are taken until as many of them were
reached as slots were available; those that were reached get these slots in order, and nothing else
changes. A step serves the waiting list after it has given back a slot or resized the pool.
-/
namespace LeasePool.Coordinator

open Semaphore (Attempt)

variable {c c' d : Coordinator} {clock : Readings} {reach : String → Bool}

/-- Rounds of `grantNext` until one uses up no request; that one is not counted. -/
inductive Rounds (clock : Readings) (reach : String → Bool) :
    Coordinator → Nat → List Effect → Coordinator → Prop where
  | stop {c c' : Coordinator} {effects : List Effect}
      (hround : c.grantNext clock reach = (c', effects, false)) : Rounds clock reach c 0 effects c'
  | again {c c' c'' : Coordinator} {n : Nat} {effects more : List Effect}
      (hround : c.grantNext clock reach = (c', effects, true))
      (hmore : Rounds clock reach c' n more c'') :
      Rounds clock reach c (n + 1) (effects ++ more) c''

/-- The leases of those among some requests who are reached, at some slots in order. Every request
takes a lease id. -/
def dealt (clock : Readings) (reach : String → Bool) (first : Nat) (indices : List Nat)
    (requests : List Pending) : List Lease :=
  ((requests.zipIdx first).filter fun e => reach e.1.requester).zipWith
    (fun e index => ⟨e.2, index, e.1.requester, clock.granted e.1.requester⟩) indices

/-- Slots among which the ones that some leases name are handed to their requesters. -/
def handOut (clock : Readings) (leases : List Lease) (slots : List Slot) : List Slot :=
  slots.mapIdx fun i s =>
    match leases.find? fun l => l.index = i with
    | some l => s.allocate (clock.acquired l.requester)
    | none => s

/-- The coordinator after so many requests were taken off its waiting list and leases were handed
out. -/
def afterRounds (c : Coordinator) (clock : Readings) (n : Nat) (leases : List Lease) :
    Coordinator :=
  { c with
    pool := { c.pool with
      slots := handOut clock leases c.pool.slots
      free := c.pool.free - leases.length
      queue := c.pool.queue.drop n
      grants := c.pool.grants ++ leases.map fun l => (l.requester, l.index) }
    leases := c.leases ++ leases.map fun l => (releaseChannel l.requester, l)
    nextLease := c.nextLease + n
    watchers := match c.leaseTimeout with
      | some timeout => c.watchers ++ leases.map fun l =>
          ⟨⟨releaseChannel l.requester, l.id⟩, clock.granted l.requester + timeout.nanos, .armed⟩
      | none => c.watchers }

/-- The positions of the available slots, lowest first. -/
def openings (c : Coordinator) : List Nat := c.pool.slots.findIdxs Slot.isAvailable

/-- How many of the requests are made by requesters who are reached. -/
def reached (reach : String → Bool) (requests : List Pending) : Nat :=
  requests.countP fun r => reach r.requester

/-- Serving took the given requests off the waiting list: the shortest part of it that reaches as
many requesters as there are openings, or all of it. -/
structure Served (clock : Readings) (reach : String → Bool) (c : Coordinator)
    (requests : List Pending) (effects : List Effect) (c' : Coordinator) : Prop where
  queue_eq : c.pool.queue = requests ++ c'.pool.queue
  enough : c'.pool.queue = [] ∨ reached reach requests = c.openings.length
  shortest : ∀ (before after : List Pending) (r : Pending), requests = before ++ r :: after →
    reached reach before < c.openings.length
  attempts_eq : effects.filterMap Effect.attempt? = (requests.zipIdx c.nextLease).map fun e =>
    .grant e.1.requester e.2 (reach e.1.requester)
  all_dealt :
    (dealt clock reach c.nextLease c.openings requests).length = reached reach requests
  outcome : c' = c.afterRounds clock requests.length
    (dealt clock reach c.nextLease c.openings requests)
  settled : c'.pool.free = 0 ∨ c'.pool.queue = []

/-! ### Dealing -/

theorem dealt_cons_of_reached {r : Pending} (hreach : reach r.requester = true) (first i : Nat)
    (indices : List Nat) (requests : List Pending) :
    dealt clock reach first (i :: indices) (r :: requests) =
      ⟨first, i, r.requester, clock.granted r.requester⟩ ::
        dealt clock reach (first + 1) indices requests := by
  simp [dealt, List.zipIdx_cons, hreach]

theorem dealt_cons_of_not_reached {r : Pending} (hreach : reach r.requester = false) (first : Nat)
    (indices : List Nat) (requests : List Pending) :
    dealt clock reach first indices (r :: requests) =
      dealt clock reach (first + 1) indices requests := by
  simp [dealt, List.zipIdx_cons, hreach]

theorem mem_of_mem_dealt {first i : Nat} {indices : List Nat} {requests : List Pending}
    (hi : i ∈ (dealt clock reach first indices requests).map Lease.index) : i ∈ indices := by
  obtain ⟨l, hl, rfl⟩ := List.mem_map.mp hi
  rw [dealt, ← List.map_uncurry_zip_eq_zipWith] at hl
  obtain ⟨⟨r, index⟩, hpair, rfl⟩ := List.mem_map.mp hl
  exact (List.of_mem_zip hpair).2

theorem handOut_nil (clock : Readings) (slots : List Slot) : handOut clock [] slots = slots := by
  apply List.ext_getElem?
  intro i
  rw [handOut, List.getElem?_mapIdx]
  exact congrFun Option.map_id _

theorem handOut_cons {l : Lease} {leases : List Lease} (clock : Readings)
    (hindex : l.index ∉ leases.map Lease.index) (slots : List Slot) :
    handOut clock (l :: leases) slots =
      handOut clock leases (slots.modify l.index (Slot.allocate (clock.acquired l.requester))) := by
  apply List.ext_getElem?
  intro i
  rw [handOut, handOut, List.getElem?_mapIdx, List.getElem?_mapIdx, List.getElem?_modify]
  by_cases hi : l.index = i
  · -- the slot is named once
    have hlater : leases.find? (fun l => l.index = i) = none := by
      refine List.find?_eq_none.mpr fun l' hl' hsame => hindex ?_
      rw [hi, ← of_decide_eq_true hsame]
      exact List.mem_map_of_mem hl'
    simp only [List.find?_cons, hi, decide_true, hlater, if_true]
    exact (congrFun Option.map_id _).symm
  · simp [hi]

theorem length_handOut (clock : Readings) (leases : List Lease) (slots : List Slot) :
    (handOut clock leases slots).length = slots.length :=
  List.length_mapIdx

theorem afterRounds_nil (c : Coordinator) (clock : Readings) : c.afterRounds clock 0 [] = c := by
  unfold afterRounds
  rw [handOut_nil]
  cases c with
  | mk name provisioner leaseTimeout pool leases nextLease watchers =>
    cases leaseTimeout <;> simp

theorem afterRounds_skipped {r : Pending} {rest : List Pending} (hqueue : c.pool.queue = r :: rest)
    (n : Nat) (leases : List Lease) :
    (c.withQueue rest).skipped.afterRounds clock n leases = c.afterRounds clock (n + 1) leases := by
  simp [afterRounds, skipped, withQueue, hqueue, Nat.add_assoc, Nat.add_comm 1 n]

theorem afterRounds_granted {r : Pending} {rest : List Pending} {index n : Nat}
    {leases : List Lease} (hqueue : c.pool.queue = r :: rest)
    (hindex : index ∉ leases.map Lease.index)
    (hnew : c.leases.get? (releaseChannel r.requester) = none) :
    ((c.withQueue rest).granted clock index r.requester).afterRounds clock n leases =
      c.afterRounds clock (n + 1)
        (⟨c.nextLease, index, r.requester, clock.granted r.requester⟩ :: leases) := by
  let l : Lease := ⟨c.nextLease, index, r.requester, clock.granted r.requester⟩
  have hslots := handOut_cons (l := l) clock hindex c.pool.slots
  have hfree : c.pool.free - 1 - leases.length = c.pool.free - (leases.length + 1) := by omega
  have hcount : c.nextLease + 1 + n = c.nextLease + (n + 1) := by omega
  have hput := Assoc.put_of_get?_eq_none l hnew
  cases htimeout : c.leaseTimeout <;>
    simp [afterRounds, granted, startLease, withQueue, Pool.grant, htimeout, hqueue, hslots, hfree,
      hcount, hput, l]

/-! ### Serving -/

theorem Sound.length_openings (h : c.Sound) : c.openings.length = c.pool.free := by
  rw [openings, List.length_findIdxs, h.pool.counted]
  rfl

theorem openings_of_isFirst {index : Nat} {s : Slot} (hfirst : c.pool.IsFirst index s)
    (requester : String) :
    c.openings = index :: (c.granted clock index requester).openings := by
  let f := Slot.allocate (clock.acquired requester)
  exact findIdxs_of_findIdx? (f := f) (fun _ => rfl) hfirst.1 0

/-- Nothing is served when nobody waits for a slot that is free. -/
theorem Settled.served (hrest : c.Settled) (h : c.Sound) : Served clock reach c [] [] c where
  queue_eq := rfl
  enough := hrest.symm.imp_right fun hfree => (h.length_openings.trans hfree).symm
  shortest before after r heq := absurd heq (by simp)
  attempts_eq := rfl
  all_dealt := rfl
  outcome := (c.afterRounds_nil clock).symm
  settled := hrest

theorem reached_cons (reach : String → Bool) (r : Pending) (requests : List Pending) :
    reached reach (r :: requests) = reached reach requests + if reach r.requester then 1 else 0 :=
  List.countP_cons

/-- The first request is taken as well if there is an opening. -/
theorem shortest_cons {r : Pending} {requests : List Pending} {openings : Nat}
    (hpos : 0 < openings)
    (hrest : ∀ (before after : List Pending) (r' : Pending), requests = before ++ r' :: after →
      reached reach before + (if reach r.requester then 1 else 0) < openings)
    (before after : List Pending) (r' : Pending) (heq : r :: requests = before ++ r' :: after) :
    reached reach before < openings := by
  cases before with
  | nil => exact hpos
  | cons first before =>
    obtain ⟨rfl, hsplit⟩ := List.cons.inj heq
    rw [reached_cons]
    exact hrest before after r' hsplit

/-- A requester who is reached gets the first opening. -/
theorem Served.granted {r : Pending} {rest requests : List Pending} {index : Nat} {s : Slot}
    {more : List Effect} (hqueue : c.pool.queue = r :: rest) (hfirst : c.pool.IsFirst index s)
    (hreach : reach r.requester = true) (hnew : c.leases.get? (releaseChannel r.requester) = none)
    (hserved : Served clock reach ((c.withQueue rest).granted clock index r.requester) requests
      more c') {effects : List Effect}
    (hattempt : effects.filterMap Effect.attempt? = [.grant r.requester c.nextLease true]) :
    Served clock reach c (r :: requests) (effects ++ more) c' := by
  have hopenings : c.openings =
      index :: ((c.withQueue rest).granted clock index r.requester).openings :=
    openings_of_isFirst hfirst r.requester
  have hnext : ((c.withQueue rest).granted clock index r.requester).nextLease = c.nextLease + 1 :=
    rfl
  -- the first opening is not among those that the later requests take
  have hindex : index ∉ (dealt clock reach (c.nextLease + 1)
      ((c.withQueue rest).granted clock index r.requester).openings requests).map Lease.index := by
    have hnodup : c.openings.Nodup := List.nodup_findIdxs
    rw [hopenings, List.nodup_cons] at hnodup
    exact fun hmem => hnodup.1 (mem_of_mem_dealt hmem)
  have hdealt : dealt clock reach c.nextLease c.openings (r :: requests) = _ :=
    hopenings ▸ dealt_cons_of_reached hreach _ _ _ _
  constructor
  · rw [hqueue, List.cons_append, ← hserved.queue_eq]
    rfl
  · rw [hopenings, reached_cons, if_pos hreach, List.length_cons]
    exact hserved.enough.imp_right (congrArg (· + 1))
  · refine shortest_cons (by rw [hopenings]; exact Nat.succ_pos _) fun before after r' heq => ?_
    rw [hopenings, if_pos hreach]
    exact Nat.succ_lt_succ (hserved.shortest before after r' heq)
  · rw [List.filterMap_append, hattempt, hserved.attempts_eq, List.zipIdx_cons, List.map_cons,
      hreach, hnext]
    rfl
  · rw [hdealt, List.length_cons, reached_cons, if_pos hreach, ← hserved.all_dealt, hnext]
  · rw [hdealt, List.length_cons, ← afterRounds_granted hqueue hindex hnew]
    exact hserved.outcome
  · exact hserved.settled

/-- A requester who is not reached takes no opening. -/
theorem Served.skipped {r : Pending} {rest requests : List Pending} {more : List Effect}
    (hqueue : c.pool.queue = r :: rest) (hopen : 0 < c.openings.length)
    (hreach : reach r.requester = false)
    (hserved : Served clock reach (c.withQueue rest).skipped requests more c')
    {effects : List Effect}
    (hattempt : effects.filterMap Effect.attempt? = [.grant r.requester c.nextLease false]) :
    Served clock reach c (r :: requests) (effects ++ more) c' := by
  have hcount (others : List Pending) :
      reached reach others + (if reach r.requester then 1 else 0) = reached reach others := by
    rw [hreach]
    rfl
  have hdealt : dealt clock reach c.nextLease c.openings (r :: requests) = _ :=
    dealt_cons_of_not_reached hreach _ _ _
  constructor
  · rw [hqueue, List.cons_append, ← hserved.queue_eq]
    rfl
  · rw [reached_cons, hcount]
    exact hserved.enough
  · refine shortest_cons hopen fun before after r' heq => ?_
    rw [hcount]
    exact hserved.shortest before after r' heq
  · rw [List.filterMap_append, hattempt, hserved.attempts_eq, List.zipIdx_cons, List.map_cons,
      hreach]
    rfl
  · rw [hdealt, reached_cons, hcount]
    exact hserved.all_dealt
  · rw [hdealt, List.length_cons, ← afterRounds_skipped hqueue]
    exact hserved.outcome
  · exact hserved.settled

theorem Sound.mem_keys {channel : String} {l : Lease} (h : c.Sound)
    (hlease : c.leases.get? channel = some l) : l.requester ∈ c.pool.grants.keys := by
  have hgrant := (h.grant_of_lease channel l hlease).2
  by_contra hkey
  rw [(Assoc.get?_eq_none_iff l.requester c.pool.grants).mpr hkey] at hgrant
  cases hgrant

/-- Whoever holds no slot has no lease. -/
theorem Sound.lease_eq_none {requester : String} (h : c.Sound) (hnew : ¬ c.pool.Knows requester) :
    c.leases.get? (releaseChannel requester) = none := by
  cases hlease : c.leases.get? (releaseChannel requester) with
  | none => rfl
  | some l =>
    obtain rfl := releaseChannel_injective (h.grant_of_lease _ l hlease).1
    exact absurd (List.mem_append_left _ (h.mem_keys hlease)) hnew

/-- Serving goes on for as many rounds as requests are taken, and one. -/
theorem Drained.served {effects : List Effect} (hdrain : Drained clock reach c effects c')
    (h : c.Sound) : ∃ requests, Rounds clock reach c requests.length effects c' ∧
      Served clock reach c requests effects c' := by
  induction hdrain with
  | done hrest => exact ⟨[], .stop (hrest.grantNext clock reach), hrest.served h⟩
  | @serve c c' c'' r rest effects more hfree hqueue hoffer hmore ih =>
    obtain ⟨hpopped, hnew⟩ := h.dequeue hqueue
    obtain ⟨requests, hrounds, hserved⟩ := ih (hoffer.sound hpopped hfree hnew)
    obtain ⟨_, _, hround, hoffer'⟩ := h.grantNext clock reach hfree hqueue
    obtain ⟨rfl, rfl⟩ := hoffer.unique hoffer'
    refine ⟨r :: requests, .again hround hrounds, ?_⟩
    cases hoffer with
    | granted index s hfirst hreach =>
      exact hserved.granted hqueue hfirst hreach (hpopped.lease_eq_none hnew) rfl
    | refused index s hfirst hreach =>
      exact hserved.skipped hqueue (h.length_openings ▸ hfree) hreach rfl

/-! ### When a step serves the waiting list -/

/-- The coordinator after it gave back the slot of a lease that is no longer tracked, if the lease
held one. -/
def freed? (c : Coordinator) (l : Lease) : Option Coordinator :=
  match c.pool.release l.index l.requester with
  | (_, none, _) => none
  | (pool, some _, _) => some { c with pool }

/-- The coordinator at the moment when the handling of an input turns to the waiting list, if it
does so. -/
def unserved? (c : Coordinator) (clock : Readings) : Input → Option Coordinator
  | .message (.release channel only) => do
    let lease ← c.leases.get? channel
    if only.any (· ≠ lease.id) then none
    else freed? (cancelWatcher { c with leases := c.leases.erase channel } lease.id) lease
  | .message (.resize size) =>
    if size = 0 then none
    else some { c with pool := (c.pool.resize c.name c.provisioner.strategy clock size).1 }
  | .expiry e => do
    let lease ← c.leases.get? e.channel
    if lease.id = e.lease then freed? { c with leases := c.leases.erase e.channel } lease else none
  | _ => none

theorem Sound.freed?_eq {channel : String} {l : Lease} (h : c.Sound)
    (hlease : c.leases.get? channel = some l) :
    freed? { c with leases := c.leases.erase channel } l = some (c.closed channel l) := by
  obtain ⟨-, hgrant⟩ := h.grant_of_lease channel l hlease
  obtain ⟨s, hs, -⟩ := h.pool.exists_slot hgrant
  obtain ⟨status, notes, hrelease, -⟩ :=
    Pool.release_of_grant hgrant (List.getElem?_eq_some_iff.mp hs).1
  simp only [freed?, hrelease]
  rfl

/-- A step turns to the waiting list after the change that its input makes. One that does not has
left the slots, the grants and the target alone until then. -/
theorem Changed.unserved? {input : Input} {effects : List Effect}
    (hchange : Changed clock reach c input effects c') (h : c.Sound) :
    c.unserved? clock input = some c' ∨ c.unserved? clock input = none ∧
      c'.pool.slots = c.pool.slots ∧ c'.pool.grants = c.pool.grants ∧
      c'.pool.target = c.pool.target := by
  cases hchange with
  | @released channel only l notes hlease honly hnotes =>
    have hany : only.any (· ≠ l.id) = false := by
      cases only with
      | none => rfl
      | some k => simpa using honly k rfl
    left
    simp only [Coordinator.unserved?, hlease, Option.bind_eq_bind, Option.bind_some, hany,
      Bool.false_eq_true, if_false]
    exact (h.cancelWatcher l.id).freed?_eq hlease
  | strayRelease channel only n hstray hn =>
    refine Or.inr ⟨?_, rfl, rfl, rfl⟩
    cases hlease : c.leases.get? channel with
    | none => simp [Coordinator.unserved?, hlease]
    | some l =>
      obtain ⟨k, rfl, hne⟩ := hstray l hlease
      simp [Coordinator.unserved?, hlease, hne]
  | @expired channel l notes hlease hnotes =>
    left
    simp only [Coordinator.unserved?, hlease, Option.bind_eq_bind, Option.bind_some, if_true]
    exact h.freed?_eq hlease
  | strayExpiry e hstray =>
    refine Or.inr ⟨?_, rfl, rfl, rfl⟩
    cases hlease : c.leases.get? e.channel with
    | none => simp [Coordinator.unserved?, hlease]
    | some l => simp [Coordinator.unserved?, hlease, hstray l hlease]
  | resized hsize hresize hrefit =>
    left
    simp only [Coordinator.unserved?, if_neg (Nat.ne_of_gt hsize), hresize]
    rfl
  | _ => exact Or.inr ⟨rfl, rfl, rfl, rfl⟩

/-- What is left of a step that turns to the waiting list is to serve it. -/
theorem Stepped.serves {input : Input} {effects : List Effect}
    (hstep : Stepped clock reach c input effects c') (h : c.Sound)
    (hturn : c.unserved? clock input = some d) :
    d.Sound ∧ ∃ first, (c', effects) =
      ((d.drain clock reach).1, first ++ (d.drain clock reach).2) := by
  cases hstep with
  | @intro first more c₁ c' hchange hdrain =>
    have hsound := hchange.sound h
    obtain heq | ⟨hnone, -⟩ := hchange.unserved? h
    · obtain rfl : d = c₁ := Option.some.inj (hturn.symm.trans heq)
      obtain ⟨rfl, rfl⟩ := hdrain.unique (hsound.drain clock reach)
      exact ⟨hsound, first, rfl⟩
    · rw [hnone] at hturn
      cases hturn

/-- Whenever a step serves the waiting list, the rounds come to an end, and the requests that they
use up decide about everything that they change. -/
theorem create_run_serves {name : PoolName} {options : PoolOptions} {now : Readings} {e : Event}
    (hcreate : create name options now = .ok (c, e)) (os : List Occasion) (o : Occasion)
    (hturn : (c.run os).1.unserved? o.clock o.input = some d) :
    let served := d.drain o.clock o.reach
    (∃ first, (c.run os).1.step o.clock o.reach o.input = (served.1, first ++ served.2)) ∧
      ∃ requests, Rounds o.clock o.reach d requests.length served.2 served.1 ∧
        Served o.clock o.reach d requests served.2 served.1 := by
  have hresting := (resting_create hcreate).run os
  obtain ⟨hsound, hstep⟩ := (hresting.stepped o).serves hresting.toSound hturn
  exact ⟨hstep, (hsound.drain o.clock o.reach).served hsound⟩

/-- One slot, three waiting requesters, and the first of them is not reached. -/
theorem create_run_serves_unreached :
    ∃ c e d, create ⟨"space", "disk"⟩ ⟨1, none, .plain, 1000⟩ default = .ok (c, e) ∧
      let os := ["a", "b", "c", "d"].map fun requester =>
        (⟨default, fun _ => true, .message (.request requester 0)⟩ : Occasion)
      let served := d.drain default fun requester => requester != "b"
      (c.run os).1.unserved? default (.message (.release (releaseChannel "a") none)) = some d ∧
        d.pool.queue.map Pending.requester = ["b", "c", "d"] ∧
        served.1.pool.queue.map Pending.requester = ["d"] ∧
        served.2.filterMap Effect.attempt? = [.grant "b" 1 false, .grant "c" 2 true] ∧
        ∃ requests,
          Rounds default (fun requester => requester != "b") d requests.length served.2 served.1 ∧
          Served default (fun requester => requester != "b") d requests served.2 served.1 := by
  let c : Coordinator := ⟨⟨"space", "disk"⟩, .plain, none,
    .ofSlots (Provisioner.plain.stock ⟨"space", "disk"⟩ default 1), [], 0, []⟩
  let os := ["a", "b", "c", "d"].map fun requester =>
    (⟨default, fun _ => true, .message (.request requester 0)⟩ : Occasion)
  let o : Occasion := ⟨default, fun requester => requester != "b",
    .message (.release (releaseChannel "a") none)⟩
  have hcreate : create ⟨"space", "disk"⟩ ⟨1, none, .plain, 1000⟩ default =
      .ok (c, .started 1 "default") := rfl
  have hshown : ((c.run os).1.unserved? o.clock o.input).map (fun d =>
      (d.pool.queue.map Pending.requester,
        (d.drain o.clock o.reach).1.pool.queue.map Pending.requester,
        (d.drain o.clock o.reach).2.filterMap Effect.attempt?)) =
      some (["b", "c", "d"], ["d"], [.grant "b" 1 false, .grant "c" 2 true]) := by
    decide +kernel
  obtain ⟨d, hturn, hd⟩ := Option.map_eq_some_iff.mp hshown
  obtain ⟨hbefore, hafter⟩ := Prod.mk.inj hd
  obtain ⟨hqueue, hattempts⟩ := Prod.mk.inj hafter
  exact ⟨c, _, d, hcreate, hturn, hbefore, hqueue, hattempts,
    (create_run_serves hcreate os o hturn).2⟩

end LeasePool.Coordinator
