import LeasePool.Proofs.Timeouts

/-!
Leases tell the grants of a pool by their release channels. That holds at every moment of the life
of a coordinator: whatever it takes up, whomever its responses reach, and whichever timers fire
meanwhile, whether or not they are due. Each lease has a timer of its own if leases run out at all,
and as long as the coordinator is not stopped the timer has not been cancelled.
-/
namespace LeasePool

namespace Coordinator

variable {c c' : Coordinator} {clock : Readings} {reach : String → Bool}

/-! ### Timers through a step -/

theorem Timed.offer {requester : String} {effects : List Effect} (h : c.Timed)
    (hoffer : Offer clock reach c requester effects c') : c'.Timed := by
  cases hoffer with
  | granted index s hfirst hreach => exact h.granted clock index requester
  | refused index s hfirst hreach => exact h.of_same rfl rfl (Nat.le_succ _) rfl

theorem Timed.drained {effects : List Effect} (h : c.Timed)
    (hdrain : Drained clock reach c effects c') : c'.Timed := by
  induction hdrain with
  | done hrest => exact h
  | @serve c c' c'' r queue effects more hfree hqueue hoffer hmore ih =>
    have hpopped : (c.withQueue queue).Timed := h.of_same rfl rfl (Nat.le_refl _) rfl
    exact ih (hpopped.offer hoffer)

/-- A lease that ends takes its timer with it only if it was given back. -/
theorem Timed.changed {input : Input} {effects : List Effect} (h : c.Timed) (hc : c.Sound)
    (hchange : Changed clock reach c input effects c') : c'.Timed := by
  cases hchange with
  | released hlease honly hnotes => exact h.released hc hlease
  | @expired channel l notes hlease hnotes => exact h.closed channel l
  | _ => exact h.of_same rfl rfl (Nat.le_refl _) rfl

theorem Timed.stepped {input : Input} {effects : List Effect} (h : c.Timed) (hc : c.Sound)
    (hstep : Stepped clock reach c input effects c') : c'.Timed := by
  cases hstep with
  | intro hchange hdrain => exact (h.changed hc hchange).drained hdrain

/-! ### The life of a coordinator -/

/-- Something that happens to a coordinator while it runs. -/
inductive Happening where
  | takes (o : Occasion)
  /-- The timer of a lease fires. -/
  | fires (lease : Nat)

def undergo (c : Coordinator) : Happening → Coordinator
  | .takes o => (c.step o.clock o.reach o.input).1
  | .fires lease => c.fireWatcher lease

def live (c : Coordinator) (happenings : List Happening) : Coordinator :=
  happenings.foldl undergo c

theorem live_concat (c : Coordinator) (happenings : List Happening) (h : Happening) :
    c.live (happenings ++ [h]) = (c.live happenings).undergo h :=
  List.foldl_concat undergo c h happenings

/-- A coordinator between two happenings, with its timers. -/
structure Attended (timeout : Option Duration) (c : Coordinator) : Prop extends c.Resting where
  leaseTimeout_eq : c.leaseTimeout = timeout
  timers : c.Timed

variable {timeout : Option Duration}

theorem attended_create {name : PoolName} {options : PoolOptions} {now : Readings} {e : Event}
    (hcreate : create name options now = .ok (c, e)) : c.Attended options.leaseTimeout := by
  refine ⟨resting_create hcreate, ?_, (watched_create hcreate 0).timers⟩
  obtain ⟨-, rfl, -⟩ := create_eq_ok hcreate
  rfl

theorem Attended.undergo (h : c.Attended timeout) (happening : Happening) :
    (c.undergo happening).Attended timeout := by
  cases happening with
  | takes o =>
    have hstep := h.stepped o
    exact ⟨h.step o, hstep.sameSettings.leaseTimeout_eq.trans h.leaseTimeout_eq,
      h.timers.stepped h.toSound hstep⟩
  | fires lease =>
    exact ⟨h.fireWatcher lease, h.leaseTimeout_eq, h.timers.fireWatcher lease⟩

theorem Attended.live (h : c.Attended timeout) (happenings : List Happening) :
    (c.live happenings).Attended timeout := by
  induction happenings generalizing c with
  | nil => exact h
  | cons happening happenings ih => exact ih (h.undergo happening)

/-! ### Leases and grants -/

/-- The leases are the grants of the pool, told by release channels. Each has a timer if leases run
out, and else none has. -/
structure Mirrored (timeout : Option Duration) (c : Coordinator) : Prop where
  channel_iff : ∀ channel : String, (c.leases.get? channel).isSome = true ↔
    ∃ r, (c.pool.grants.get? r).isSome = true ∧ channel = releaseChannel r
  named : ∀ (r : String) (l : Lease), c.leases.get? (releaseChannel r) = some l →
    l.requester = r ∧ c.pool.grants.get? r = some l.index
  id_lt : ∀ (channel : String) (l : Lease), c.leases.get? channel = some l → l.id < c.nextLease
  id_inj : ∀ (channel channel' : String) (l l' : Lease), c.leases.get? channel = some l →
    c.leases.get? channel' = some l' → l.id = l'.id → channel = channel'
  timer_iff : ∀ (channel : String) (l : Lease), c.leases.get? channel = some l →
    ((∃ w ∈ c.watchers, w.expiry = ⟨channel, l.id⟩) ↔ timeout.isSome = true)

/-- No lease that is tracked has had its timer cancelled. -/
def Uncancelled (c : Coordinator) : Prop :=
  ∀ (channel : String) (l : Lease), c.leases.get? channel = some l →
    ∀ w ∈ c.watchers, w.expiry = ⟨channel, l.id⟩ → w.state ≠ .cancelled

theorem Attended.mirrored (h : c.Attended timeout) : c.Mirrored timeout where
  channel_iff channel := by
    rw [Option.isSome_iff_exists]
    constructor
    · rintro ⟨l, hl⟩
      obtain ⟨hchannel, hgrant⟩ := h.grant_of_lease channel l hl
      exact ⟨l.requester, Option.isSome_of_eq_some hgrant, hchannel⟩
    · rintro ⟨r, hgrant, rfl⟩
      obtain ⟨index, hindex⟩ := Option.isSome_iff_exists.mp hgrant
      obtain ⟨l, hl, -⟩ := h.lease_of_grant r index hindex
      exact ⟨l, hl⟩
  named r l hl := by
    obtain ⟨hchannel, hgrant⟩ := h.grant_of_lease _ l hl
    obtain rfl := releaseChannel_injective hchannel
    exact ⟨rfl, hgrant⟩
  id_lt := h.lease_lt
  id_inj := h.lease_unique
  timer_iff channel l hl := by
    have htimeout := h.leaseTimeout_eq
    cases timeout with
    | none => simp [h.timers.untimed htimeout]
    | some t =>
      obtain ⟨w, hw, hexpiry, -⟩ := h.timers.timed t htimeout channel l hl
      simpa using ⟨w, hw, hexpiry⟩

theorem Attended.uncancelled (h : c.Attended timeout) : c.Uncancelled := by
  intro channel l hl w hw hexpiry
  cases htimeout : c.leaseTimeout with
  | none =>
    rw [h.timers.untimed htimeout] at hw
    cases hw
  | some t =>
    obtain ⟨w', hw', hexpiry', -, hstate⟩ := h.timers.timed t htimeout channel l hl
    have hsame := h.timers.eq_of_lease hw hw' (by rw [hexpiry, hexpiry'])
    rwa [hsame]

/-- Stopping cancels timers and leaves the leases as they are. -/
theorem Mirrored.cancelWatchers (h : c.Mirrored timeout) :
    c.cancelWatchers.Mirrored timeout := by
  have hexpiry (w : Watcher) : (w.disarm .cancelled).expiry = w.expiry := by
    unfold Watcher.disarm
    split <;> rfl
  refine ⟨h.channel_iff, h.named, h.id_lt, h.id_inj, fun channel l hl => ?_⟩
  rw [← h.timer_iff channel l hl]
  simp only [Coordinator.cancelWatchers, List.mem_map, exists_exists_and_eq_and, hexpiry]

end Coordinator

/-! ### The coordinator of a station -/

namespace Shift

open Coordinator (Happening)

variable {s : Shift} {c : Coordinator}

/-- What an incident does to the coordinator: nothing, unless the station works; then it is
something that happens to a coordinator, or the end. -/
theorem after_cases (s : Shift) (i : Incident) :
    ((s.after i).coordinator = s.coordinator ∧
        (s.station.isClosed = true → (s.after i).station.isClosed = true)) ∨
      s.station.isClosed = false ∧
        ((∃ h, (s.after i).coordinator = s.coordinator.undergo h) ∨
          (s.after i).station.isClosed = true ∧
            (s.after i).coordinator = s.coordinator.cancelWatchers) := by
  unfold after coordinator
  cases i with
  | post e =>
    left
    dsimp only
    cases hpost : s.station.post e with
    | accepted station =>
      obtain ⟨-, rfl⟩ := Station.post_eq_accepted hpost
      exact ⟨rfl, id⟩
    | full | refused => exact ⟨rfl, id⟩
  | pass nanos => exact .inl ⟨rfl, id⟩
  | fire lease =>
    dsimp only
    cases hfire : s.station.fire? s.ticks lease with
    | none => exact .inl ⟨rfl, id⟩
    | some station =>
      obtain ⟨hopen, w, -, -, -, -, rfl⟩ := Station.fire?_eq_some hfire
      exact .inr ⟨hopen, .inl ⟨.fires lease, rfl⟩⟩
  | turn now reach faulty held =>
    dsimp only
    cases htake : s.station.take? (now.stopped s.ticks) reach faulty held with
    | none => exact .inl ⟨rfl, id⟩
    | some turn =>
      obtain ⟨hopen, hacts⟩ := Station.acts_of_take? htake
      cases hacts with
      | halts => exact .inr ⟨hopen, .inr ⟨rfl, rfl⟩⟩
      | @handles input query hgoes hnext =>
        rcases s.station.rest.handle_cases (now.stopped s.ticks) reach faulty input query with
          heq | ⟨n, heq⟩ <;> rw [heq]
        · refine .inr ⟨hopen, .inl ⟨.takes ⟨now.stopped s.ticks, reach, input⟩, ?_⟩⟩
          rw [Station.rest_coordinator]
          rfl
        · exact .inl ⟨s.station.rest_coordinator, fun _ => rfl⟩
  | stop => exact .inl ⟨rfl, id⟩

/-- The coordinator of a station has lived through something, and was stopped only if the station
has left. -/
def Lived (c : Coordinator) (s : Shift) : Prop :=
  ∃ happenings, s.coordinator = c.live happenings ∨
    s.station.isClosed = true ∧ s.coordinator = (c.live happenings).cancelWatchers

theorem Lived.after (h : Lived c s) (i : Incident) : Lived c (s.after i) := by
  obtain ⟨happenings, h⟩ := h
  rcases s.after_cases i with ⟨hsame, hclosed⟩ | ⟨hopen, hworks⟩
  · refine ⟨happenings, h.imp hsame.trans fun hleft => ⟨hclosed hleft.1, hsame.trans hleft.2⟩⟩
  · have hlive : s.coordinator = c.live happenings := by
      rcases h with hlive | ⟨hclosed, -⟩
      · exact hlive
      · rw [hopen] at hclosed
        cases hclosed
    rw [hlive] at hworks
    rcases hworks with ⟨happening, hnext⟩ | hleft
    · exact ⟨happenings ++ [happening], .inl (hnext.trans (c.live_concat _ _).symm)⟩
    · exact ⟨happenings, .inr hleft⟩

theorem Lived.run (h : Lived c s) (incidents : List Incident) : Lived c (s.run incidents) := by
  induction incidents generalizing s with
  | nil => exact h
  | cons i incidents ih => exact ih (h.after i)

/-- Whatever a new coordinator lives through, by itself or at its station, its leases mirror the
grants of its pool, and no timer of a lease is cancelled before the coordinator is stopped. -/
theorem create_live_mirrored {name : PoolName} {options : PoolOptions} {now : Readings}
    {e : Event} (hcreate : Coordinator.create name options now = .ok (c, e)) :
    (∀ happenings, (c.live happenings).Mirrored options.leaseTimeout ∧
      (c.live happenings).Uncancelled) ∧
    ∀ (ticks : Nat) (incidents : List Incident),
      let s := (start c options.capacity ticks e).run incidents
      s.coordinator.Mirrored options.leaseTimeout ∧
        (s.station.isClosed = false → s.coordinator.Uncancelled) := by
  have hlive (happenings : List Happening) :=
    (Coordinator.attended_create hcreate).live happenings
  refine ⟨fun happenings => ⟨(hlive happenings).mirrored, (hlive happenings).uncancelled⟩,
    fun ticks incidents => ?_⟩
  have hstart : Lived c (start c options.capacity ticks e) := ⟨[], .inl rfl⟩
  obtain ⟨happenings, hrun | ⟨hclosed, hrun⟩⟩ := hstart.run incidents
  · dsimp only
    rw [hrun]
    exact ⟨(hlive happenings).mirrored, fun _ => (hlive happenings).uncancelled⟩
  · dsimp only
    rw [hrun, hclosed]
    exact ⟨(hlive happenings).mirrored.cancelWatchers, nofun⟩

/-- The first of two leases is given back and the timer of the second fires. -/
theorem create_live_mirrored_fired :
    ∃ c e, Coordinator.create ⟨"space", "gpu"⟩ ⟨2, some ⟨5, by decide⟩, .plain, 1000⟩ default =
        .ok (c, e) ∧
      let takes (m : Message) := Happening.takes ⟨default, fun _ => true, .message m⟩
      let d := c.live [takes (.request "a" 0), takes (.request "b" 0),
        takes (.release "resource-channel-a" none), .fires 1]
      d.pool.grants = [("b", 1)] ∧
        d.leases = [("resource-channel-b", ⟨1, 1, "b", 0⟩)] ∧
        d.watchers.map Watcher.state = [.cancelled, .fired] ∧
        d.Mirrored (some ⟨5, by decide⟩) ∧ d.Uncancelled := by
  have hcreate : Coordinator.create ⟨"space", "gpu"⟩ ⟨2, some ⟨5, by decide⟩, .plain, 1000⟩
      default = .ok (_, _) := rfl
  obtain ⟨hmirrored, huncancelled⟩ := (create_live_mirrored hcreate).1
    [.takes ⟨default, fun _ => true, .message (.request "a" 0)⟩,
      .takes ⟨default, fun _ => true, .message (.request "b" 0)⟩,
      .takes ⟨default, fun _ => true, .message (.release "resource-channel-a" none)⟩, .fires 1]
  exact ⟨_, _, hcreate, by decide +kernel, by decide +kernel, by decide +kernel, hmirrored,
    huncancelled⟩

end Shift

end LeasePool
