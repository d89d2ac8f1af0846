import LeasePool.Proofs.Runs

/-!
The events of a coordinator tell all about its pool. A replay sees the events and nothing else, and
after every step it has arrived at the target, the waiting list and the grants of the pool. Whatever
an event says about the pool agrees with the replay of the events before it.
-/
namespace LeasePool

/-- What the events so far tell about a pool. -/
structure Replay where
  target : Nat
  queue : List Pending
  grants : Assoc String Nat
deriving DecidableEq, Repr

namespace Replay

def empty : Replay := ⟨0, [], []⟩

/-- A requester is off the waiting list. -/
def leave (v : Replay) (requester : String) : Replay :=
  { v with queue := v.queue.eraseP fun r => r.requester == requester }

def apply (v : Replay) : Event → Replay
  | .started size _ => { v with target := size }
  | .queued requester priority _ => { v with queue := v.queue ++ [⟨requester, priority⟩] }
  | .granted requester _ index _ =>
    { v.leave requester with grants := v.grants.put requester index }
  | .rolledBack requester _ => v.leave requester
  | .waitCancelled requester => v.leave requester
  | .released requester _ _ _ => { v with grants := v.grants.erase requester }
  | .resized _ size _ => { v with target := size }
  | .duplicate _ => v
  | .resizeRejected _ => v
  | .stopped => v

/-- If the requester waits, it is the first one. -/
def IsNext (v : Replay) (requester : String) : Prop :=
  requester ∈ v.queue.map Pending.requester →
    (v.queue.map Pending.requester).head? = some requester

/-- What an event says agrees with what is known before it. -/
def Agrees (v : Replay) : Event → Prop
  | .queued _ _ position => position = v.queue.length
  | .granted requester _ _ _ => v.IsNext requester
  | .rolledBack requester _ => v.IsNext requester
  | .released requester index _ _ => v.grants.get? requester = some index
  | .resized previous size available =>
    previous = max v.target v.grants.length ∧ available = size - v.grants.length
  | _ => True

/-- Events that lead from one state of the replay to another, each in agreement with those before
it. -/
inductive Leads : Replay → List Event → Replay → Prop where
  | done (v : Replay) : Leads v [] v
  | next {v v' : Replay} {e : Event} {rest : List Event} (hagrees : v.Agrees e)
      (hrest : Leads (v.apply e) rest v') : Leads v (e :: rest) v'

variable {v v' v'' : Replay} {events events' : List Event}

namespace Leads

theorem single {e : Event} (hagrees : v.Agrees e) : Leads v [e] (v.apply e) :=
  .next hagrees (.done _)

theorem append (h : Leads v events v') (h' : Leads v' events' v'') :
    Leads v (events ++ events') v'' := by
  induction h with
  | done v => exact h'
  | next hagrees hrest ih => exact .next hagrees (ih h')

theorem foldl_eq (h : Leads v events v') : events.foldl apply v = v' := by
  induction h with
  | done v => rfl
  | next hagrees hrest ih => exact ih

theorem agrees (h : Leads v events v') {before after : List Event} {e : Event}
    (hsplit : events = before ++ e :: after) : (before.foldl apply v).Agrees e := by
  induction h generalizing before with
  | done v => simp at hsplit
  | @next v v' first rest hagrees hrest ih =>
    cases before with
    | nil =>
      obtain ⟨rfl, -⟩ := List.cons.inj hsplit
      exact hagrees
    | cons _ before =>
      obtain ⟨rfl, hrest⟩ := List.cons.inj hsplit
      exact ih hrest

end Leads

end Replay

/-- What of a pool can be told by events. -/
def Pool.told (p : Pool) : Replay := ⟨p.target, p.queue, p.grants⟩

/-- A resize reports how many slots were in service before. -/
theorem Pool.resize_outcome (p : Pool) (name : PoolName) (strategy : Strategy) (now : Readings)
    (size : Nat) : (p.resize name strategy now size).2.1.previous = p.inService ∧
      (p.resize name strategy now size).2.1.size = size := by
  unfold resize
  by_cases hle : p.inService ≤ size
  · simp only [hle, if_true, and_self]
  · simp only [hle, if_false, and_self]

namespace Coordinator

open Replay (Leads)

variable {c c' : Coordinator} {clock : Readings} {reach : String → Bool}

/-- The event of an offer takes the requester off the waiting list of the replay, where it may be
the first one or not at all. -/
theorem Offer.leads {requester : String} {effects : List Effect} {v : Replay}
    (hoffer : Offer clock reach c requester effects c') (hnew : ¬ c.pool.Knows requester)
    (hleave : v.leave requester = c.pool.told) (hnext : v.IsNext requester) :
    Leads v (effects.filterMap Effect.event?) c'.pool.told := by
  cases hoffer with
  | granted index s hfirst hreach =>
    have hgrant := ((Pool.Accounted.not_knows_iff c.pool requester).mp hnew).1
    have hgrants : v.grants = c.pool.grants := congrArg Replay.grants hleave
    have happly : v.apply (.granted requester s.resource.id index c.leaseTimeout) =
        (c.granted clock index requester).pool.told := by
      rw [Replay.apply, hleave, hgrants, Assoc.put_of_get?_eq_none index hgrant]
      rfl
    rw [← happly]
    exact .single hnext
  | refused index s hfirst hreach =>
    rw [show c.skipped.pool.told = v.apply (.rolledBack requester index) from hleave.symm]
    exact .single hnext

theorem Drained.leads {effects : List Effect} (hdrain : Drained clock reach c effects c')
    (hc : c.Sound) : Leads c.pool.told (effects.filterMap Effect.event?) c'.pool.told := by
  induction hdrain with
  | done hrest => exact .done _
  | @serve c c' c'' r rest effects more hfree hqueue hoffer hmore ih =>
    obtain ⟨hpopped, hnew⟩ := hc.dequeue hqueue
    have hleave : c.pool.told.leave r.requester = (c.withQueue rest).pool.told := by
      simp [Pool.told, Replay.leave, hqueue, withQueue]
    have hnext : c.pool.told.IsNext r.requester := by
      intro
      simp [Pool.told, hqueue]
    rw [List.filterMap_append]
    exact (hoffer.leads hnew hleave hnext).append (ih (hoffer.sound hpopped hfree hnew))

theorem told_closed (c : Coordinator) (channel : String) (l : Lease) :
    (c.closed channel l).pool.told =
      { c.pool.told with grants := c.pool.grants.erase l.requester } := by
  rw [Pool.told, closed_grants, Coordinator.closed, Pool.tidy_target, Pool.tidy_queue]
  rfl

theorem leads_closed (hc : c.Sound) {channel : String} {l : Lease} (reason : ReleaseReason)
    (held : Duration) (hlease : c.leases.get? channel = some l) :
    Leads c.pool.told [.released l.requester l.index reason held]
      (c.closed channel l).pool.told := by
  obtain ⟨-, hgrant⟩ := hc.grant_of_lease channel l hlease
  rw [told_closed]
  exact .single hgrant

/-- The events of a change tell what it does, unless a request passes through the waiting list,
which is told only when it is served. -/
theorem Changed.leads {input : Input} {effects : List Effect} (hc : c.Sound)
    (hchange : Changed clock reach c input effects c') :
    Leads c.pool.told (effects.filterMap Effect.event?) c'.pool.told ∨
      ∃ requester priority, ¬ c.pool.Knows requester ∧ c.pool.queue = [] ∧ 0 < c.pool.free ∧
        effects.filterMap Effect.event? = [] ∧
        c' = c.withQueue (c.pool.queue ++ [⟨requester, priority⟩]) := by
  cases hchange with
  | admitted requester priority hnew hqueue hfree =>
    exact Or.inr ⟨requester, priority, hnew, hqueue, hfree, rfl, rfl⟩
  | duplicate requester priority hknown => exact Or.inl (.single trivial)
  | queued requester priority hnew hwait => exact Or.inl (.single rfl)
  | @released channel only l notes hlease honly hnotes =>
    rw [List.filterMap_cons_none rfl, filterMap_closing fun _ => rfl]
    exact Or.inl (leads_closed (hc.cancelWatcher l.id) _ _ hlease)
  | expired hlease hnotes =>
    rw [filterMap_closing fun _ => rfl]
    exact Or.inl (leads_closed hc _ _ hlease)
  | resizeRejected => exact Or.inl (.single trivial)
  | @resized size slots outcome hsize hresize hrefit =>
    obtain ⟨hprevious, hsame⟩ :=
      c.pool.resize_outcome c.name c.provisioner.strategy clock size
    rw [hresize] at hprevious hsame
    simp only at hprevious hsame
    have hagrees : c.pool.told.Agrees
        (.resized outcome.previous outcome.size (size - c.pool.grants.length)) := by
      rw [hprevious, hsame, hc.pool.inService_eq]
      exact ⟨rfl, rfl⟩
    have hend : (c.refitted slots size).pool.told =
        c.pool.told.apply (.resized outcome.previous outcome.size
          (size - c.pool.grants.length)) := by
      rw [hsame]
      rfl
    rw [hend]
    exact Or.inl (.single hagrees)
  | withdrawn requester hwaits =>
    have hevents : (Effect.note .handling :: .delivery requester .cancelled (reach requester) ::
        (if reach requester then [] else [Effect.note .cancellationUndeliverable]) ++
          [Effect.event (.waitCancelled requester)]).filterMap Effect.event? =
        [.waitCancelled requester] := by
      cases reach requester <;> rfl
    rw [hevents]
    exact Or.inl (.single trivial)
  | strayRelease | strayExpiry | notWaiting | status | allocation => exact Or.inl (.done _)

/-- The events of a step lead from what was known before it to what is known after it. -/
theorem Stepped.leads {input : Input} {effects : List Effect} (hc : c.Sound)
    (hstep : Stepped clock reach c input effects c') :
    Leads c.pool.told (effects.filterMap Effect.event?) c'.pool.told := by
  cases hstep with
  | intro hchange hdrain =>
    rw [List.filterMap_append]
    rcases hchange.leads hc with htold | ⟨requester, priority, hnew, hqueue, hfree, hnone, rfl⟩
    · exact htold.append (hdrain.leads (hchange.sound hc))
    · have hleave : c.pool.told.leave requester = c.pool.told := by
        simp [Pool.told, Replay.leave, hqueue]
      have hnext : c.pool.told.IsNext requester := by
        simp [Replay.IsNext, Pool.told, hqueue]
      rw [hnone]
      exact (hdrain.offer hqueue hfree).leads hnew hleave hnext

theorem Resting.leads (h : c.Resting) (os : List Occasion) :
    Leads c.pool.told ((c.run os).2.filterMap Effect.event?) (c.run os).1.pool.told := by
  induction os generalizing c with
  | nil => exact .done _
  | cons o os ih =>
    rw [run_cons, List.filterMap_append]
    exact ((h.stepped o).leads h.toSound).append (ih (h.step o))

/-- The event with which a coordinator is created tells what its pool is like. -/
theorem leads_create {name : PoolName} {options : PoolOptions} {now : Readings} {e : Event}
    (hcreate : create name options now = .ok (c, e)) : Leads .empty [e] c.pool.told := by
  obtain ⟨-, rfl, rfl⟩ := create_eq_ok hcreate
  have hstart : (Pool.ofSlots (options.provisioner.stock name now options.size)).told =
      Replay.empty.apply (.started options.size options.provisioner.name) := by
    rw [Pool.told, Pool.ofSlots, options.provisioner.length_stock]
    rfl
  rw [hstart]
  exact .single trivial

/-- After every run of a coordinator, a replay of its events has arrived at the target, the waiting
list and the grants of the pool, and each event agrees with those before it. -/
theorem create_run_replay {name : PoolName} {options : PoolOptions} {now : Readings} {e : Event}
    (hcreate : create name options now = .ok (c, e)) (os : List Occasion) :
    let events := e :: (c.run os).2.filterMap Effect.event?
    let pool := (c.run os).1.pool
    events.foldl Replay.apply .empty = ⟨pool.target, pool.queue, pool.grants⟩ ∧
      ∀ before event after, events = before ++ event :: after →
        (before.foldl Replay.apply .empty).Agrees event := by
  have hleads := (leads_create hcreate).append ((resting_create hcreate).leads os)
  exact ⟨hleads.foldl_eq, fun _ _ _ hsplit => hleads.agrees hsplit⟩

/-- Three requests for one slot, of which the second cannot be reached, and a resize that lets the
third in. -/
theorem create_run_replay_resized :
    ∃ c e, create ⟨"space", "disk"⟩ ⟨1, none, .plain, 1000⟩ default = .ok (c, e) ∧
      let os := [Message.request "a" 0, .request "b" 3, .request "c" 5, .request "d" 7,
        .resize 2].map fun m => (⟨default, fun requester => requester != "b", .message m⟩ : Occasion)
      (e :: (c.run os).2.filterMap Effect.event?).foldl Replay.apply .empty =
        ⟨2, [⟨"d", 7⟩], [("a", 0), ("c", 1)]⟩ := by
  have hcreate : create ⟨"space", "disk"⟩ ⟨1, none, .plain, 1000⟩ default = .ok (_, _) := rfl
  obtain ⟨hreplay, -⟩ := create_run_replay hcreate
    ([Message.request "a" 0, .request "b" 3, .request "c" 5, .request "d" 7, .resize 2].map fun m =>
      ⟨default, fun requester => requester != "b", .message m⟩)
  exact ⟨_, _, hcreate, hreplay.trans rfl⟩

end Coordinator

end LeasePool
