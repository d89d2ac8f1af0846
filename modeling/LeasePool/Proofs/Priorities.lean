import LeasePool.Proofs.Arrivals
import LeasePool.Proofs.Queues
import LeasePool.Proofs.Views
import Mathlib.Data.List.Induction

/-!
Priorities are reported and have no other effect. Setting all of them to zero before a step comes to
the same as doing so after it, whatever the state of the coordinator, so that two runs that differ
in priorities only go through the same states and tell the same, up to the priorities themselves.
What is told of a waiting request is the priority with which it was accepted.
-/
namespace LeasePool

/-! ### Without priorities -/

/-- The request with its priority set to zero. -/
def Pending.leveled (r : Pending) : Pending := { r with priority := 0 }

def WaitingView.leveled (w : WaitingView) : WaitingView := { w with priority := 0 }

def Allocation.leveled (a : Allocation) : Allocation :=
  { a with waiting := a.waiting.map WaitingView.leveled }

def Event.leveled : Event → Event
  | .queued requester _ position => .queued requester 0 position
  | e => e

def Effect.leveled : Effect → Effect
  | .event e => .event e.leveled
  | .answer (.allocation a) => .answer (.allocation a.leveled)
  | effect => effect

def Pool.leveled : Pool → Pool := Pool.onQueue (List.map Pending.leveled)

@[simp] theorem Pending.leveled_requester (r : Pending) : r.leveled.requester = r.requester := rfl

theorem Effect.map_leveled_notes (notes : List Note) :
    (notes.map Effect.note).map Effect.leveled = notes.map Effect.note := by
  rw [List.map_map]
  rfl

theorem Effect.event?_leveled (effect : Effect) :
    effect.leveled.event? = effect.event?.map Event.leveled := by
  cases effect with
  | answer a => cases a <;> rfl
  | _ => rfl

theorem Effect.delivered?_leveled (effect : Effect) :
    effect.leveled.delivered? = effect.delivered? := by
  cases effect with
  | answer a => cases a <;> rfl
  | _ => rfl

namespace Pool

theorem waitingCount_leveled (p : Pool) : p.leveled.waitingCount = p.waitingCount :=
  List.length_map _

theorem isWaiting_leveled (p : Pool) (requester : String) :
    p.leveled.isWaiting requester = p.isWaiting requester := by
  simp [isWaiting, leveled, Function.comp_def]

theorem enqueue_leveled (p : Pool) (r : Pending) :
    p.leveled.enqueue r.leveled = ((p.enqueue r).1.leveled, (p.enqueue r).2) := by
  simp [enqueue, leveled, onQueue]

theorem dequeue_leveled (p : Pool) :
    p.leveled.dequeue = (p.dequeue.1.leveled, p.dequeue.2.map Pending.leveled) := by
  cases hqueue : p.queue with
  | nil => simp [dequeue, leveled, onQueue, hqueue]
  | cons r rest => simp [dequeue, leveled, onQueue, hqueue]

theorem withdraw_leveled (p : Pool) (requester : String) :
    p.leveled.withdraw requester =
      ((p.withdraw requester).1.leveled, (p.withdraw requester).2.map Pending.leveled) := by
  simp [withdraw, leveled, onQueue, List.eraseP_map, List.find?_map, Function.comp_def]

theorem status_leveled (p : Pool) (resource : String) :
    p.leveled.status resource = p.status resource := by
  rw [status, waitingCount_leveled]
  rfl

theorem allocation_leveled (p : Pool) (resource : String) :
    p.leveled.allocation resource = (p.allocation resource).leveled := by
  simp only [allocation, Allocation.leveled, leveled, onQueue, List.zipIdx_map, List.map_map]
  rfl

end Pool

namespace Coordinator

variable {c c' : Coordinator} {clock : Readings} {reach : String → Bool}

def leveled (c : Coordinator) : Coordinator := { c with pool := c.pool.leveled }

def Input.leveled : Input → Input
  | .message (.request requester _) => .message (.request requester 0)
  | input => input

/-- The coordinator and what it has told, both without priorities. -/
def leveledOutcome (result : Coordinator × List Effect) : Coordinator × List Effect :=
  (result.1.leveled, result.2.map Effect.leveled)

/-! ### Granting -/

theorem tryGrant_leveled (c : Coordinator) (clock : Readings) (reach : String → Bool)
    (r : Pending) :
    c.leveled.tryGrant clock reach r.leveled =
      ((c.tryGrant clock reach r).1.leveled,
        (c.tryGrant clock reach r).2.1.map Effect.leveled,
        (c.tryGrant clock reach r).2.2) := by
  have hallocate : c.leveled.pool.allocate (clock.acquired r.requester) r.requester = _ :=
    c.pool.allocate_onQueue (clock.acquired r.requester) r.requester
  unfold tryGrant
  rw [Pending.leveled_requester, hallocate]
  obtain ⟨pool, _ | resource, notes⟩ := c.pool.allocate (clock.acquired r.requester) r.requester
  · simp only [Effect.map_leveled_notes]
    rfl
  · cases hreach : reach r.requester with
    | true =>
      simp only [if_true, List.map_append, Effect.map_leveled_notes]
      rfl
    | false =>
      have hback := pool.rollback_onQueue (f := List.map Pending.leveled) resource.index r.requester
      simp only [Bool.false_eq_true, if_false, List.map_append, Effect.map_leveled_notes]
      rw [hback]
      rfl

theorem grantNext_leveled (c : Coordinator) (clock : Readings) (reach : String → Bool) :
    c.leveled.grantNext clock reach =
      ((c.grantNext clock reach).1.leveled,
        (c.grantNext clock reach).2.1.map Effect.leveled,
        (c.grantNext clock reach).2.2) := by
  have hfree : c.leveled.pool.free = c.pool.free := rfl
  have hdequeue : c.leveled.pool.dequeue = _ := c.pool.dequeue_leveled
  unfold grantNext
  rw [hfree, hdequeue]
  by_cases hnone : c.pool.free = 0
  · rw [if_pos hnone, if_pos hnone]
    rfl
  · rw [if_neg hnone, if_neg hnone]
    obtain ⟨pool, _ | r⟩ := c.pool.dequeue
    · rfl
    · have htry : ({ c.leveled with pool := pool.leveled } : Coordinator).tryGrant clock reach
          r.leveled = _ := tryGrant_leveled { c with pool } clock reach r
      simp only [Option.map_some]
      rw [htry]
      obtain ⟨c', effects, _ | _ | _⟩ := ({ c with pool } : Coordinator).tryGrant clock reach r
      · rfl
      · rfl
      · rfl

theorem drainUpTo_leveled (clock : Readings) (reach : String → Bool) (n : Nat) (c : Coordinator) :
    drainUpTo clock reach n c.leveled = leveledOutcome (drainUpTo clock reach n c) := by
  induction n generalizing c with
  | zero => rfl
  | succ n ih =>
    simp only [drainUpTo, grantNext_leveled]
    obtain ⟨c', effects, _ | _⟩ := c.grantNext clock reach
    · rfl
    · simp only [ih, leveledOutcome, List.map_append]

theorem drain_leveled (c : Coordinator) (clock : Readings) (reach : String → Bool) :
    c.leveled.drain clock reach = leveledOutcome (c.drain clock reach) := by
  have hlength : c.leveled.pool.queue.length = c.pool.queue.length := c.pool.waitingCount_leveled
  rw [drain, drain, hlength]
  exact drainUpTo_leveled clock reach _ c

/-! ### Handling an input -/

theorem acquire_leveled (c : Coordinator) (clock : Readings) (reach : String → Bool) (r : Pending) :
    c.leveled.acquire clock reach r.leveled = leveledOutcome (c.acquire clock reach r) := by
  have hgrant : c.leveled.pool.grantOf? r.requester = c.pool.grantOf? r.requester := rfl
  have hwaits : c.leveled.pool.isWaiting r.requester = c.pool.isWaiting r.requester :=
    c.pool.isWaiting_leveled r.requester
  have hcount : c.leveled.pool.waitingCount = c.pool.waitingCount := c.pool.waitingCount_leveled
  unfold acquire
  rw [Pending.leveled_requester, hgrant, hwaits, hcount]
  by_cases hknown : ((c.pool.grantOf? r.requester).isSome || c.pool.isWaiting r.requester) = true
  · rw [if_pos hknown, if_pos hknown]
    rfl
  · rw [if_neg hknown, if_neg hknown]
    by_cases hnobody : c.pool.waitingCount = 0
    · simp only [hnobody, if_true, tryGrant_leveled]
      obtain ⟨c', effects, outcome⟩ := c.tryGrant clock reach r
      have henqueue : c'.leveled.pool.enqueue r.leveled = _ := c'.pool.enqueue_leveled r
      by_cases hnone : outcome = .noCapacity
      · simp only [hnone, if_true, henqueue, leveledOutcome, List.map_append]
        rfl
      · simp only [hnone, if_false]
        rfl
    · have henqueue : c.leveled.pool.enqueue r.leveled = _ := c.pool.enqueue_leveled r
      simp only [hnobody, if_false, if_true, henqueue, leveledOutcome, List.nil_append]
      rfl

theorem finish_leveled (c : Coordinator) (clock : Readings) (reach : String → Bool) (l : Lease)
    (reason : ReleaseReason) :
    c.leveled.finish clock reach l reason = leveledOutcome (c.finish clock reach l reason) := by
  have hrelease : c.leveled.pool.release l.index l.requester = _ :=
    c.pool.release_onQueue l.index l.requester
  unfold finish
  rw [hrelease]
  obtain ⟨pool, _ | status, notes⟩ := c.pool.release l.index l.requester
  · simp only [leveledOutcome, List.map_append, Effect.map_leveled_notes]
    rfl
  · have hdrain : ({ c.leveled with pool := pool.leveled } : Coordinator).drain clock reach = _ :=
      drain_leveled { c with pool } clock reach
    have hleveled : ({ c.leveled with pool := pool.onQueue (List.map Pending.leveled) } :
        Coordinator) = leveled { c with pool } := rfl
    simp only [hleveled, drain_leveled, leveledOutcome, List.map_append, Effect.map_leveled_notes]
    rfl

theorem release_leveled (c : Coordinator) (clock : Readings) (reach : String → Bool)
    (channel : String) (only : Option Nat) :
    c.leveled.release clock reach channel only =
      leveledOutcome (c.release clock reach channel only) := by
  have hleases : c.leveled.leases = c.leases := rfl
  unfold release
  rw [hleases]
  cases c.leases.get? channel with
  | none => rfl
  | some l =>
    by_cases hother : only.any (· ≠ l.id) = true
    · simp only [hother, if_true]
      rfl
    · simp only [hother]
      exact finish_leveled
        (cancelWatcher { c with leases := c.leases.erase channel } l.id) clock reach l .released

theorem expire_leveled (c : Coordinator) (clock : Readings) (reach : String → Bool) (e : Expiry) :
    c.leveled.expire clock reach e = leveledOutcome (c.expire clock reach e) := by
  have hleases : c.leveled.leases = c.leases := rfl
  unfold expire
  rw [hleases]
  cases c.leases.get? e.channel with
  | none => rfl
  | some l =>
    by_cases hid : l.id = e.lease
    · simp only [hid, if_true]
      exact finish_leveled { c with leases := c.leases.erase e.channel } clock reach l .timedOut
    · simp only [hid, if_false]
      rfl

theorem resize_leveled (c : Coordinator) (clock : Readings) (reach : String → Bool) (size : Nat) :
    c.leveled.resize clock reach size = leveledOutcome (c.resize clock reach size) := by
  have hresize : c.leveled.pool.resize c.leveled.name c.leveled.provisioner.strategy clock
      size = _ := c.pool.resize_onQueue c.name c.provisioner.strategy clock size
  unfold resize
  by_cases hsize : size = 0
  · rw [if_pos hsize, if_pos hsize]
    rfl
  · rw [if_neg hsize, if_neg hsize, hresize]
    obtain ⟨pool, outcome, notes⟩ := c.pool.resize c.name c.provisioner.strategy clock size
    have hleveled : ({ c.leveled with pool := pool.onQueue (List.map Pending.leveled) } :
        Coordinator) = leveled { c with pool } := rfl
    simp only [hleveled, drain_leveled, leveledOutcome, List.map_append, Effect.map_leveled_notes]
    rfl

theorem cancel_leveled (c : Coordinator) (reach : String → Bool) (requester : String) :
    c.leveled.cancel reach requester = leveledOutcome (c.cancel reach requester) := by
  have hwithdraw : c.leveled.pool.withdraw requester = _ := c.pool.withdraw_leveled requester
  unfold cancel
  rw [hwithdraw]
  obtain ⟨pool, _ | r⟩ := c.pool.withdraw requester
  · rfl
  · cases hreach : reach requester with
    | true => rfl
    | false => rfl

/-- Setting the priorities to zero before a step comes to the same as doing so after it. -/
theorem step_leveled (c : Coordinator) (clock : Readings) (reach : String → Bool) (input : Input) :
    c.leveled.step clock reach input.leveled = leveledOutcome (c.step clock reach input) := by
  cases input with
  | expiry e => exact c.expire_leveled clock reach e
  | message m =>
    cases m with
    | request requester priority =>
      have hacquire : c.leveled.acquire clock reach ⟨requester, 0⟩ = _ :=
        c.acquire_leveled clock reach ⟨requester, priority⟩
      simp only [Input.leveled, step, handle, hacquire]
      rfl
    | release channel only =>
      simp only [Input.leveled, step, handle, release_leveled]
      rfl
    | resize size =>
      simp only [Input.leveled, step, handle, resize_leveled]
      rfl
    | cancel requester =>
      simp only [Input.leveled, step, handle, cancel_leveled]
      rfl
    | status =>
      have hstatus : c.leveled.pool.status c.leveled.name.resource = _ :=
        c.pool.status_leveled c.name.resource
      simp only [Input.leveled, step, handle, hstatus]
      rfl
    | allocation =>
      have hallocation : c.leveled.pool.allocation c.leveled.name.resource = _ :=
        c.pool.allocation_leveled c.name.resource
      simp only [Input.leveled, step, handle, hallocation]
      rfl

/-! ### Runs -/

/-- The same input at the same time, with the same outcome of a delivery to anybody; only the
priority of a request may be another one. -/
structure Occasion.LevelWith (o o' : Occasion) : Prop where
  clock_eq : o'.clock = o.clock
  reach_eq : o'.reach = o.reach
  input_eq : o'.input.leveled = o.input.leveled

/-- Coordinators that differ in priorities only go on to do so. -/
theorem run_leveled {d : Coordinator} {os os' : List Occasion} (h : d.leveled = c.leveled)
    (hsame : List.Forall₂ Occasion.LevelWith os os') :
    leveledOutcome (d.run os') = leveledOutcome (c.run os) := by
  induction hsame generalizing c d with
  | nil => exact congrArg (·, []) h
  | @cons o o' os os' hfirst hrest ih =>
    have hstep : leveledOutcome (d.step o'.clock o'.reach o'.input) =
        leveledOutcome (c.step o.clock o.reach o.input) := by
      rw [← step_leveled, ← step_leveled, h, hfirst.clock_eq, hfirst.reach_eq, hfirst.input_eq]
    obtain ⟨hstate, htold⟩ := Prod.mk.inj hstep
    obtain ⟨hend, hmore⟩ := Prod.mk.inj (ih hstate)
    rw [run_cons, run_cons]
    simp only [leveledOutcome, List.map_append, hend, htold, hmore]

/-! ### The priority of an accepted request -/

/-- The request was accepted in a run and has been waiting ever since. -/
def WaitsSince (c : Coordinator) (os : List Occasion) (r : Pending) : Prop :=
  ∃ before o after, os = before ++ o :: after ∧
    accepted? o.input ((c.run before).1.step o.clock o.reach o.input).2 = some r ∧
    ∀ during, during <+: after → r ∈ (c.run (before ++ o :: during)).1.pool.queue

theorem Drained.queue_suffix {effects : List Effect} (hdrain : Drained clock reach c effects c') :
    c'.pool.queue <:+ c.pool.queue := by
  induction hdrain with
  | done hrest => exact List.suffix_refl _
  | @serve c c' c'' r rest effects more hfree hqueue hoffer hmore ih =>
    have hserved : c'.pool.queue = rest := hoffer.queue_eq
    rw [hserved] at ih
    rw [hqueue]
    exact ih.trans (List.suffix_cons r rest)

/-- Whoever waits after a step waited before it, or its request has just been accepted. -/
theorem Stepped.waits_or_accepted {input : Input} {effects : List Effect} {r : Pending}
    (hstep : Stepped clock reach c input effects c') (hr : r ∈ c'.pool.queue) :
    r ∈ c.pool.queue ∨ accepted? input effects = some r := by
  cases hstep with
  | @intro first more c₁ c' hchange hdrain =>
    have hmem : r ∈ c₁.pool.queue := hdrain.queue_suffix.subset hr
    rcases hchange.arrival_cases hdrain.not_duplicate with ⟨r', haccepted, -, -, hqueue⟩ |
      ⟨-, ⟨requester, -, -, hqueue⟩ | ⟨-, hqueue⟩⟩
    · rw [hqueue] at hmem
      rcases List.mem_append.mp hmem with hold | hnew
      · exact Or.inl hold
      · rw [List.mem_singleton.mp hnew]
        exact Or.inr haccepted
    · rw [hqueue] at hmem
      exact Or.inl (List.mem_of_mem_eraseP hmem)
    · rw [hqueue] at hmem
      exact Or.inl hmem

theorem WaitsSince.concat {os : List Occasion} {r : Pending} (h : c.WaitsSince os r) (o : Occasion)
    (hr : r ∈ (c.run (os ++ [o])).1.pool.queue) : c.WaitsSince (os ++ [o]) r := by
  obtain ⟨before, first, after, rfl, haccepted, hwaits⟩ := h
  refine ⟨before, first, after ++ [o], by simp, haccepted, ?_⟩
  intro during hduring
  rcases List.prefix_concat_iff.mp hduring with hall | hpart
  · rw [hall]
    simpa using hr
  · exact hwaits during hpart

/-- Whoever waits after a run has been waiting since its request was accepted. -/
theorem Resting.waitsSince (h : c.Resting) (hidle : c.pool.queue = []) (os : List Occasion)
    {r : Pending} (hr : r ∈ (c.run os).1.pool.queue) : c.WaitsSince os r := by
  induction os using List.reverseRecOn generalizing r with
  | nil =>
    have hnone : r ∈ c.pool.queue := hr
    rw [hidle] at hnone
    exact absurd hnone List.not_mem_nil
  | append_singleton os o ih =>
    have hstep := (h.run os).stepped o
    have hmem : r ∈ ((c.run os).1.step o.clock o.reach o.input).1.pool.queue := by
      rwa [run_concat] at hr
    rcases hstep.waits_or_accepted hmem with hold | haccepted
    · exact (ih hold).concat o hr
    · refine ⟨os, o, [], rfl, haccepted, ?_⟩
      intro during hduring
      rw [List.prefix_nil.mp hduring]
      exact hr

theorem filterMap_delivered_leveled (effects : List Effect) :
    (effects.map Effect.leveled).filterMap Effect.delivered? =
      effects.filterMap Effect.delivered? := by
  rw [List.filterMap_map]
  exact congrArg (List.filterMap · effects) (funext Effect.delivered?_leveled)

theorem filterMap_event_leveled (effects : List Effect) :
    (effects.map Effect.leveled).filterMap Effect.event? =
      (effects.filterMap Effect.event?).map Event.leveled := by
  rw [List.filterMap_map, List.map_filterMap]
  exact congrArg (List.filterMap · effects) (funext Effect.event?_leveled)

theorem queue_requesters_leveled (c : Coordinator) :
    c.leveled.pool.queue.map Pending.requester = c.pool.queue.map Pending.requester := by
  have hqueue : c.leveled.pool.queue = c.pool.queue.map Pending.leveled := rfl
  rw [hqueue, List.map_map]
  rfl

/-- Priorities make no difference. Two runs of a coordinator that differ in priorities only have led
to the same slots, counts, grants, leases and lease ids and to the same requesters waiting in the
same order; they have delivered the same responses in the same order, and all that they told is the
same up to the priorities themselves. An allocation lists those who wait, each with the priority of
the request that was accepted and has been waiting since. -/
theorem create_run_leveled {name : PoolName} {options : PoolOptions} {now : Readings} {e : Event}
    (hcreate : create name options now = .ok (c, e)) {os os' : List Occasion}
    (hsame : List.Forall₂ Occasion.LevelWith os os') :
    let d := (c.run os).1
    let d' := (c.run os').1
    let a := d.pool.allocation d.name.resource
    (d'.pool.slots = d.pool.slots ∧ d'.pool.free = d.pool.free ∧ d'.pool.target = d.pool.target ∧
      d'.pool.grants = d.pool.grants ∧ d'.leases = d.leases ∧ d'.nextLease = d.nextLease ∧
      d'.watchers = d.watchers ∧
      d'.pool.queue.map Pending.requester = d.pool.queue.map Pending.requester) ∧
    ((c.run os').2.filterMap Effect.delivered? = (c.run os).2.filterMap Effect.delivered? ∧
      ((c.run os').2.filterMap Effect.event?).map Event.leveled =
        ((c.run os).2.filterMap Effect.event?).map Event.leveled ∧
      (c.run os').2.map Effect.leveled = (c.run os).2.map Effect.leveled) ∧
    ∀ clock reach, d.step clock reach (.message .allocation) =
        (d, [.note .handling, .answer (.allocation a)]) ∧
      a.waitingIds = d.pool.queue.map Pending.requester ∧
      ∀ w ∈ a.waiting, c.WaitsSince os ⟨w.requester, w.priority⟩ := by
  intro d d' a
  obtain ⟨hstate, htold⟩ := Prod.mk.inj (run_leveled (c := c) (d := c) rfl hsame)
  have hfield {β : Type} (field : Coordinator → β) : field d'.leveled = field d.leveled :=
    congrArg field hstate
  have hqueue := hfield fun c => c.pool.queue.map Pending.requester
  rw [queue_requesters_leveled, queue_requesters_leveled] at hqueue
  refine ⟨⟨hfield fun c => c.pool.slots, hfield fun c => c.pool.free, hfield fun c => c.pool.target,
    hfield fun c => c.pool.grants, hfield leases, hfield nextLease, hfield watchers, hqueue⟩,
    ⟨?_, ?_, htold⟩, ?_⟩
  · rw [← filterMap_delivered_leveled, htold, filterMap_delivered_leveled]
  · rw [← filterMap_event_leveled, htold, filterMap_event_leveled]
  · intro clock reach
    refine ⟨rfl, d.pool.waitingIds_allocation _, ?_⟩
    intro w hw
    have hidle : c.pool.queue = [] := by
      obtain ⟨-, rfl, -⟩ := create_eq_ok hcreate
      rfl
    have hmem := List.mem_map_of_mem (f := WaitingView.request) hw
    rw [d.pool.requests_allocation] at hmem
    exact (resting_create hcreate).waitsSince hidle os hmem

/-- Two requests for one slot, the second made twice. The other run asks with other priorities, and
its duplicate with the one that the first run's request had. -/
theorem create_run_leveled_duplicate :
    ∃ c e, create ⟨"space", "disk"⟩ ⟨1, none, .plain, 1000⟩ default = .ok (c, e) ∧
      let occasion (m : Message) : Occasion := ⟨default, fun _ => true, .message m⟩
      let os := [Message.request "a" 0, .request "b" 5, .request "b" 9].map occasion
      let os' := [Message.request "a" 7, .request "b" (-1), .request "b" 5].map occasion
      let pool := (c.run os).1.pool
      List.Forall₂ Occasion.LevelWith os os' ∧
        (pool.allocation "disk").waiting = [⟨"b", 5, 0⟩] ∧
        ((c.run os').1.pool.allocation "disk").waiting = [⟨"b", -1, 0⟩] ∧
        (c.run os').1.pool.queue.map Pending.requester = pool.queue.map Pending.requester ∧
        c.WaitsSince os ⟨"b", 5⟩ := by
  let c : Coordinator := ⟨⟨"space", "disk"⟩, .plain, none,
    .ofSlots (Provisioner.plain.stock ⟨"space", "disk"⟩ default 1), [], 0, []⟩
  have hcreate : create ⟨"space", "disk"⟩ ⟨1, none, .plain, 1000⟩ default =
      .ok (c, .started 1 "default") := rfl
  refine ⟨c, _, hcreate, ?_⟩
  intro occasion os os' pool
  have hsame : List.Forall₂ Occasion.LevelWith os os' :=
    .cons ⟨rfl, rfl, rfl⟩ (.cons ⟨rfl, rfl, rfl⟩ (.cons ⟨rfl, rfl, rfl⟩ .nil))
  have hwaiting : (pool.allocation "disk").waiting = [⟨"b", 5, 0⟩] := by decide +kernel
  have hwaiting' : ((c.run os').1.pool.allocation "disk").waiting = [⟨"b", -1, 0⟩] := by
    decide +kernel
  obtain ⟨⟨-, -, -, -, -, -, -, hqueue⟩, -, hlisted⟩ := create_run_leveled hcreate hsame
  obtain ⟨-, -, hsince⟩ := hlisted default fun _ => true
  have hlast : ⟨"b", 5, 0⟩ ∈ (pool.allocation "disk").waiting := by
    rw [hwaiting]
    exact List.mem_singleton_self _
  exact ⟨hsame, hwaiting, hwaiting', hqueue, hsince _ hlast⟩

end Coordinator

end LeasePool
