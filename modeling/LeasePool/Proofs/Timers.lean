import LeasePool.Proofs.Runs
import LeasePool.Proofs.Turns

/-!
The timers of leases. While a lease is held, exactly one timer was started for it, due when its
time is up; it runs, or has fired and then its report waits to be handled. The timer of a lease that
has ended does not run any more. Whatever a coordinator does keeps this, since lease ids are never
used twice. Without a lease timeout there are no timers.
-/
namespace LeasePool

namespace Watcher

variable {w : Watcher} {lease : Nat} {state : WatcherState}

/-- Ends a timer that is still running, if it is the one of a lease. -/
def disarmFor (lease : Nat) (state : WatcherState) (w : Watcher) : Watcher :=
  if w.expiry.lease = lease then w.disarm state else w

@[simp] theorem expiry_disarmFor (lease : Nat) (state : WatcherState) (w : Watcher) :
    (w.disarmFor lease state).expiry = w.expiry := by
  unfold disarmFor disarm
  split
  · split <;> rfl
  · rfl

@[simp] theorem deadline_disarmFor (lease : Nat) (state : WatcherState) (w : Watcher) :
    (w.disarmFor lease state).deadline = w.deadline := by
  unfold disarmFor disarm
  split
  · split <;> rfl
  · rfl

theorem disarmFor_of_ne (hne : w.expiry.lease ≠ lease) : w.disarmFor lease state = w := if_neg hne

theorem disarmFor_of_not_armed (hstill : w.state ≠ .armed) : w.disarmFor lease state = w := by
  unfold disarmFor disarm
  rw [if_neg hstill, ite_self]

theorem state_disarmFor (hlease : w.expiry.lease = lease) (harmed : w.state = .armed) :
    (w.disarmFor lease state).state = state := by
  unfold disarmFor disarm
  rw [if_pos hlease, if_pos harmed]

/-- A timer stays as it is, or it ran and belongs to the lease. -/
theorem disarmFor_cases (lease : Nat) (state : WatcherState) (w : Watcher) :
    w.disarmFor lease state = w ∧ (w.state = .armed → w.expiry.lease ≠ lease) ∨
      (w.disarmFor lease state).state = state ∧ w.state = .armed ∧ w.expiry.lease = lease := by
  by_cases hlease : w.expiry.lease = lease
  · by_cases harmed : w.state = .armed
    · exact Or.inr ⟨state_disarmFor hlease harmed, harmed, hlease⟩
    · exact Or.inl ⟨disarmFor_of_not_armed harmed, fun h => absurd h harmed⟩
  · exact Or.inl ⟨disarmFor_of_ne hlease, fun _ => hlease⟩

end Watcher

namespace Coordinator

variable {c c' : Coordinator} {ticks : Nat} {expired rest : List Expiry}
  {clock : Readings} {reach : String → Bool}

/-- The channel of an expiry tracks the lease that the expiry names. -/
def Tracks (c : Coordinator) (e : Expiry) : Prop :=
  ∃ l, c.leases.get? e.channel = some l ∧ l.id = e.lease

/-- Every timer was started for a lease of its own, and every lease that is tracked has one that
nobody has cancelled. -/
structure Timed (c : Coordinator) : Prop where
  untimed : c.leaseTimeout = none → c.watchers = []
  numbered : (c.watchers.map fun w => w.expiry.lease).Nodup
  lease_lt : ∀ w ∈ c.watchers, w.expiry.lease < c.nextLease
  timed : ∀ t : Duration, c.leaseTimeout = some t →
    ∀ (channel : String) (l : Lease), c.leases.get? channel = some l →
      ∃ w ∈ c.watchers, w.expiry = ⟨channel, l.id⟩ ∧ w.deadline = l.grantedAt + t.nanos ∧
        w.state ≠ .cancelled

/-! ### Timers and leases -/

theorem granted_watchers {t : Duration} (htimeout : c.leaseTimeout = some t) (clock : Readings)
    (index : Nat) (requester : String) :
    (c.granted clock index requester).watchers = c.watchers ++
      [⟨⟨releaseChannel requester, c.nextLease⟩, clock.granted requester + t.nanos, .armed⟩] := by
  unfold Coordinator.granted startLease
  simp only [htimeout]

theorem granted_watchers_of_untimed (hnone : c.leaseTimeout = none) (clock : Readings)
    (index : Nat) (requester : String) :
    (c.granted clock index requester).watchers = c.watchers := by
  unfold Coordinator.granted startLease
  simp only [hnone]

theorem map_disarmFor_leases (watchers : List Watcher) (lease : Nat) (state : WatcherState) :
    (watchers.map (Watcher.disarmFor lease state)).map (fun w => w.expiry.lease) =
      watchers.map fun w => w.expiry.lease := by
  rw [List.map_map]
  exact List.map_congr_left fun w _ => congrArg Expiry.lease (w.expiry_disarmFor lease state)

namespace Timed

theorem eq_of_lease {w w' : Watcher} (h : c.Timed) (hw : w ∈ c.watchers) (hw' : w' ∈ c.watchers)
    (hsame : w.expiry.lease = w'.expiry.lease) : w = w' :=
  List.inj_on_of_nodup_map h.numbered hw hw' hsame

/-- Only the lease timeout, the leases, their next id and the timers matter. -/
theorem of_same (h : c.Timed) (htimeout : c'.leaseTimeout = c.leaseTimeout)
    (hleases : c'.leases = c.leases) (hnext : c.nextLease ≤ c'.nextLease)
    (hwatchers : c'.watchers = c.watchers) : c'.Timed := by
  constructor
  · rw [htimeout, hwatchers]
    exact h.untimed
  · rw [hwatchers]
    exact h.numbered
  · intro w hw
    rw [hwatchers] at hw
    exact Nat.lt_of_lt_of_le (h.lease_lt w hw) hnext
  · rw [htimeout, hleases, hwatchers]
    exact h.timed

theorem granted (h : c.Timed) (clock : Readings) (index : Nat) (requester : String) :
    (c.granted clock index requester).Timed := by
  have hsetting : (c.granted clock index requester).leaseTimeout = c.leaseTimeout := rfl
  have hnext : (c.granted clock index requester).nextLease = c.nextLease + 1 := rfl
  cases htimeout : c.leaseTimeout with
  | none =>
    have hwatchers := granted_watchers_of_untimed htimeout clock index requester
    rw [h.untimed htimeout] at hwatchers
    constructor <;> simp [hwatchers, hsetting, htimeout]
  | some t =>
    have hwatchers := granted_watchers htimeout clock index requester
    constructor
    · intro hnone
      rw [hsetting, htimeout] at hnone
      cases hnone
    · rw [hwatchers, List.map_append]
      refine List.Nodup.append h.numbered (List.nodup_singleton _) fun n hold hnew => ?_
      obtain ⟨w, hw, rfl⟩ := List.mem_map.mp hold
      exact Nat.ne_of_lt (h.lease_lt w hw) (List.mem_singleton.mp hnew)
    · intro w hw
      rw [hwatchers] at hw
      rw [hnext]
      rcases List.mem_append.mp hw with hold | hnew
      · exact Nat.lt_succ_of_lt (h.lease_lt w hold)
      · rw [List.mem_singleton.mp hnew]
        exact Nat.lt_succ_self _
    · intro t' ht' channel l hl
      rw [hsetting, htimeout] at ht'
      obtain rfl := Option.some.inj ht'
      rw [granted_leases] at hl
      rw [hwatchers]
      split at hl
      case isTrue hchannel =>
        refine ⟨_, List.mem_append_right _ (List.mem_singleton_self _), ?_, ?_, ?_⟩
        · rw [← Option.some.inj hl, hchannel]
        · rw [← Option.some.inj hl]
        · intro hcancelled
          cases hcancelled
      case isFalse =>
        obtain ⟨w, hw, hrest⟩ := h.timed t htimeout channel l hl
        exact ⟨w, List.mem_append_left _ hw, hrest⟩

theorem closed (h : c.Timed) (channel : String) (l : Lease) : (c.closed channel l).Timed where
  untimed := h.untimed
  numbered := h.numbered
  lease_lt := h.lease_lt
  timed t ht other l' hl' := by
    rw [closed_leases] at hl'
    split at hl'
    · cases hl'
    · exact h.timed t ht other l' hl'

/-- Ending some timers matters only for the leases whose timers are cancelled. -/
theorem disarm (h : c.Timed) (lease : Nat) (state : WatcherState)
    (hwatchers : c'.watchers = c.watchers.map (Watcher.disarmFor lease state))
    (htimeout : c'.leaseTimeout = c.leaseTimeout) (hnext : c'.nextLease = c.nextLease)
    (hleases : ∀ channel l, c'.leases.get? channel = some l →
      c.leases.get? channel = some l ∧ (l.id = lease → state ≠ .cancelled)) : c'.Timed := by
  constructor
  · intro hnone
    rw [htimeout] at hnone
    rw [hwatchers, h.untimed hnone]
    rfl
  · rw [hwatchers, map_disarmFor_leases]
    exact h.numbered
  · rw [hwatchers, hnext]
    refine List.forall_mem_map.mpr fun w hw => ?_
    rw [w.expiry_disarmFor]
    exact h.lease_lt w hw
  · intro t ht channel l hl
    rw [htimeout] at ht
    obtain ⟨hold, hkept⟩ := hleases channel l hl
    obtain ⟨w, hw, hexpiry, hdeadline, hstate⟩ := h.timed t ht channel l hold
    refine ⟨w.disarmFor lease state, ?_, ?_, ?_, ?_⟩
    · rw [hwatchers]
      exact List.mem_map_of_mem hw
    · exact (w.expiry_disarmFor _ _).trans hexpiry
    · exact (w.deadline_disarmFor _ _).trans hdeadline
    · rcases w.disarmFor_cases lease state with ⟨hsame, -⟩ | ⟨hended, -, hid⟩
      · rwa [hsame]
      · rw [hended]
        rw [hexpiry] at hid
        exact hkept hid

/-- A lease that is given back has its timer cancelled, and no other lease has. -/
theorem released {channel : String} {l : Lease} (h : c.Timed) (hc : c.Sound)
    (hlease : c.leases.get? channel = some l) :
    ((c.cancelWatcher l.id).closed channel l).Timed := by
  refine h.disarm l.id .cancelled rfl rfl rfl fun other l' hl' => ?_
  rw [closed_leases] at hl'
  split at hl'
  case isTrue => cases hl'
  case isFalse hne =>
    exact ⟨hl', fun hid => absurd (hc.lease_unique channel other l l' hlease hl' hid.symm) hne⟩

theorem fireWatcher (h : c.Timed) (lease : Nat) : (c.fireWatcher lease).Timed :=
  h.disarm lease .fired rfl rfl rfl fun _ _ hl => ⟨hl, fun _ => nofun⟩

end Timed

/-- Timers belong to leases and reports to timers. The queue holds the leases whose time is up and
that have not been handled. -/
structure Watched (ticks : Nat) (expired : List Expiry) (c : Coordinator) : Prop where
  untimed : c.leaseTimeout = none → c.watchers = []
  numbered : (c.watchers.map fun w => w.expiry.lease).Nodup
  lease_lt : ∀ w ∈ c.watchers, w.expiry.lease < c.nextLease
  timed : ∀ t : Duration, c.leaseTimeout = some t →
    ∀ (channel : String) (l : Lease), c.leases.get? channel = some l →
      ∃ w ∈ c.watchers, w.expiry = ⟨channel, l.id⟩ ∧ w.deadline = l.grantedAt + t.nanos ∧
        w.state ≠ .cancelled
  tracked : ∀ w ∈ c.watchers, w.state = .armed → c.Tracks w.expiry
  expired_nodup : expired.Nodup
  fired : ∀ e ∈ expired, ∃ w ∈ c.watchers, w.expiry = e ∧ w.state = .fired ∧ w.deadline ≤ ticks
  reported : ∀ w ∈ c.watchers, w.state = .fired → c.Tracks w.expiry → w.expiry ∈ expired

/-- A coordinator that starts no timers has none to mind. -/
theorem watched_of_untimed (hnone : c.leaseTimeout = none) (hwatchers : c.watchers = [])
    (ticks : Nat) : Watched ticks [] c := by
  constructor <;> simp [hnone, hwatchers]

theorem watched_create {name : PoolName} {options : PoolOptions} {now : Readings} {e : Event}
    (hcreate : create name options now = .ok (c, e)) (ticks : Nat) : Watched ticks [] c := by
  obtain ⟨-, rfl, -⟩ := create_eq_ok hcreate
  constructor <;> simp

namespace Watched

theorem timers (h : Watched ticks expired c) : c.Timed :=
  ⟨h.untimed, h.numbered, h.lease_lt, h.timed⟩

theorem eq_of_lease {w w' : Watcher} (h : Watched ticks expired c) (hw : w ∈ c.watchers)
    (hw' : w' ∈ c.watchers) (hsame : w.expiry.lease = w'.expiry.lease) : w = w' :=
  h.timers.eq_of_lease hw hw' hsame

/-- Only the lease timeout, the leases, their next id and the timers matter. -/
theorem of_same (h : Watched ticks expired c) (htimeout : c'.leaseTimeout = c.leaseTimeout)
    (hleases : c'.leases = c.leases) (hnext : c.nextLease ≤ c'.nextLease)
    (hwatchers : c'.watchers = c.watchers) : Watched ticks expired c' := by
  have htracks (e : Expiry) : c'.Tracks e ↔ c.Tracks e := by
    unfold Tracks
    rw [hleases]
  obtain ⟨huntimed, hnumbered, hlt, htimed⟩ := h.timers.of_same htimeout hleases hnext hwatchers
  refine ⟨huntimed, hnumbered, hlt, htimed, ?_, h.expired_nodup, ?_, ?_⟩
  · intro w hw harmed
    rw [hwatchers] at hw
    exact (htracks _).mpr (h.tracked w hw harmed)
  · rw [hwatchers]
    exact h.fired
  · intro w hw hfired htrack
    rw [hwatchers] at hw
    exact h.reported w hw hfired ((htracks _).mp htrack)

theorem later {ticks' : Nat} (h : Watched ticks expired c) (hle : ticks ≤ ticks') :
    Watched ticks' expired c :=
  { h with
    fired := fun e he => by
      obtain ⟨w, hw, hexpiry, hfired, hdue⟩ := h.fired e he
      exact ⟨w, hw, hexpiry, hfired, Nat.le_trans hdue hle⟩ }

/-- A report of a lease that has ended already may be dropped. -/
theorem drop_stray {e : Expiry} (h : Watched ticks (e :: rest) c) (hstray : ¬ c.Tracks e) :
    Watched ticks rest c :=
  { h with
    expired_nodup := (List.nodup_cons.mp h.expired_nodup).2
    fired := fun e' he' => h.fired e' (List.mem_cons_of_mem e he')
    reported := fun w hw hfired htrack => by
      rcases List.mem_cons.mp (h.reported w hw hfired htrack) with heq | hrest
      · exact absurd (heq ▸ htrack) hstray
      · exact hrest }

theorem expired_of_untimed (h : Watched ticks expired c) (hnone : c.leaseTimeout = none) :
    expired = [] := by
  refine List.eq_nil_iff_forall_not_mem.mpr fun e he => ?_
  obtain ⟨w, hw, -⟩ := h.fired e he
  rw [h.untimed hnone] at hw
  cases hw

/-- The time of a lease that waits in the queue is up. -/
theorem due {e : Expiry} {l : Lease} (h : Watched ticks expired c) (he : e ∈ expired)
    (hlease : c.leases.get? e.channel = some l) (hid : l.id = e.lease) :
    ∃ t, c.leaseTimeout = some t ∧ l.grantedAt + t.nanos ≤ ticks := by
  obtain ⟨w, hw, hexpiry, -, hdue⟩ := h.fired e he
  cases htimeout : c.leaseTimeout with
  | none =>
    rw [h.untimed htimeout] at hw
    cases hw
  | some t =>
    obtain ⟨w', hw', hexpiry', hdeadline, -⟩ := h.timed t htimeout e.channel l hlease
    have hsame := h.eq_of_lease hw hw' (by rw [hexpiry, hexpiry', hid])
    exact ⟨t, rfl, by rw [← hdeadline, ← hsame]; exact hdue⟩

/-- No other timer is for the same lease. -/
theorem filter_expiry_eq {w : Watcher} (h : Watched ticks expired c) (hw : w ∈ c.watchers) :
    c.watchers.filter (fun w' => w'.expiry = w.expiry) = [w] := by
  have hnodup : c.watchers.Nodup := h.numbered.of_map _
  refine List.perm_singleton.mp ?_
  refine (List.perm_ext_iff_of_nodup (hnodup.filter _) (List.nodup_singleton w)).mpr fun w' => ?_
  rw [List.mem_filter, List.mem_singleton, decide_eq_true_iff]
  constructor
  · rintro ⟨hw', hsame⟩
    exact h.eq_of_lease hw' hw (congrArg Expiry.lease hsame)
  · rintro rfl
    exact ⟨hw, rfl⟩

/-! ### Granting -/

theorem granted {requester : String} (h : Watched ticks expired c) (index : Nat)
    (hfree : c.leases.get? (releaseChannel requester) = none) :
    Watched ticks expired (c.granted clock index requester) := by
  cases htimeout : c.leaseTimeout with
  | none =>
    rw [h.expired_of_untimed htimeout]
    have hnone : (c.granted clock index requester).leaseTimeout = none := htimeout
    refine watched_of_untimed hnone ?_ ticks
    rw [granted_watchers_of_untimed htimeout, h.untimed htimeout]
  | some t =>
    have hwatchers := granted_watchers htimeout clock index requester
    -- a lease that is tracked before keeps its channel, for the requester had none
    have htracks {e : Expiry} (htrack : c.Tracks e) :
        (c.granted clock index requester).Tracks e := by
      obtain ⟨l, hl, hid⟩ := htrack
      refine ⟨l, ?_, hid⟩
      rw [granted_leases, if_neg]
      · exact hl
      · intro heq
        rw [heq, hl] at hfree
        cases hfree
    obtain ⟨huntimed, hnumbered, hlt, htimed⟩ := h.timers.granted clock index requester
    refine ⟨huntimed, hnumbered, hlt, htimed, ?_, h.expired_nodup, ?_, ?_⟩
    · intro w hw harmed
      rw [hwatchers] at hw
      rcases List.mem_append.mp hw with hold | hnew
      · exact htracks (h.tracked w hold harmed)
      · rw [List.mem_singleton.mp hnew]
        refine ⟨⟨c.nextLease, index, requester, clock.granted requester⟩, ?_, rfl⟩
        rw [granted_leases, if_pos rfl]
    · intro e he
      obtain ⟨w, hw, hrest⟩ := h.fired e he
      exact ⟨w, hwatchers ▸ List.mem_append_left _ hw, hrest⟩
    · intro w hw hfired htrack
      rw [hwatchers] at hw
      rcases List.mem_append.mp hw with hold | hnew
      · refine h.reported w hold hfired ?_
        obtain ⟨l, hl, hid⟩ := htrack
        rw [granted_leases] at hl
        split at hl
        · rw [← Option.some.inj hl] at hid
          exact absurd hid (Nat.ne_of_gt (h.lease_lt w hold))
        · exact ⟨l, hl, hid⟩
      · rw [List.mem_singleton.mp hnew] at hfired
        cases hfired

theorem offer {requester : String} {effects : List Effect} (h : Watched ticks expired c)
    (hc : c.Sound) (hnew : ¬ c.pool.Knows requester)
    (hoffer : Offer clock reach c requester effects c') : Watched ticks expired c' := by
  cases hoffer with
  | granted index s hfirst hreach =>
    refine h.granted index ?_
    cases hlease : c.leases.get? (releaseChannel requester) with
    | none => rfl
    | some l =>
      obtain ⟨hchannel, hgrant⟩ := hc.grant_of_lease _ l hlease
      rw [← releaseChannel_injective hchannel,
        ((Pool.Accounted.not_knows_iff c.pool requester).mp hnew).1] at hgrant
      cases hgrant
  | refused index s hfirst hreach => exact h.of_same rfl rfl (Nat.le_succ _) rfl

theorem drained {effects : List Effect} (h : Watched ticks expired c) (hc : c.Sound)
    (hdrain : Drained clock reach c effects c') : Watched ticks expired c' := by
  induction hdrain with
  | done hrest => exact h
  | @serve c c' c'' r queue effects more hfree hqueue hoffer hmore ih =>
    obtain ⟨hpopped, hnew⟩ := hc.dequeue hqueue
    have hsame : Watched ticks expired (c.withQueue queue) :=
      h.of_same rfl rfl (Nat.le_refl _) rfl
    exact ih (hsame.offer hpopped hnew hoffer) (hoffer.sound hpopped hfree hnew)

/-! ### Ending a lease -/

theorem tracks_closed {channel : String} {l : Lease} {e : Expiry} :
    (c.closed channel l).Tracks e ↔ c.Tracks e ∧ channel ≠ e.channel := by
  unfold Tracks
  rw [closed_leases]
  by_cases hchannel : channel = e.channel <;> simp [hchannel]

/-- A lease may end once its timer does not run and its report has been taken. -/
theorem closed {channel : String} {l : Lease} (h : Watched ticks expired c)
    (hlease : c.leases.get? channel = some l) (hstill : ∀ w ∈ c.watchers,
      w.expiry.lease = l.id → w.state ≠ .armed) : Watched ticks expired (c.closed channel l) := by
  have hother {w : Watcher} (hw : w ∈ c.watchers) (harmed : w.state = .armed) :
      channel ≠ w.expiry.channel := by
    rintro rfl
    obtain ⟨l', hl', hid⟩ := h.tracked w hw harmed
    rw [hlease, Option.some.injEq] at hl'
    exact hstill w hw (hl' ▸ hid.symm) harmed
  obtain ⟨huntimed, hnumbered, hlt, htimed⟩ := h.timers.closed channel l
  refine ⟨huntimed, hnumbered, hlt, htimed, ?_, h.expired_nodup, h.fired, ?_⟩
  · exact fun w hw harmed => tracks_closed.mpr ⟨h.tracked w hw harmed, hother hw harmed⟩
  · exact fun w hw hfired htrack => h.reported w hw hfired (tracks_closed.mp htrack).1

/-- A lease that is given back has its timer cancelled. -/
theorem released {channel : String} {l : Lease} (h : Watched ticks expired c) (hc : c.Sound)
    (hlease : c.leases.get? channel = some l) :
    Watched ticks expired ((c.cancelWatcher l.id).closed channel l) := by
  have hwatchers : ((c.cancelWatcher l.id).closed channel l).watchers =
      c.watchers.map (Watcher.disarmFor l.id .cancelled) := rfl
  obtain ⟨huntimed, hnumbered, hlt, htimed⟩ := h.timers.released hc hlease
  refine ⟨huntimed, hnumbered, hlt, htimed, ?_, h.expired_nodup, ?_, ?_⟩
  · rw [hwatchers]
    refine List.forall_mem_map.mpr fun w hw harmed => ?_
    rcases w.disarmFor_cases l.id .cancelled with ⟨hsame, hne⟩ | ⟨hcancelled, -, -⟩
    · rw [hsame] at harmed ⊢
      obtain ⟨l', hl', hid⟩ := h.tracked w hw harmed
      refine tracks_closed.mpr ⟨⟨l', hl', hid⟩, ?_⟩
      rintro rfl
      rw [hlease, Option.some.injEq] at hl'
      exact hne harmed (hl' ▸ hid.symm)
    · rw [hcancelled] at harmed
      cases harmed
  · intro e he
    obtain ⟨w, hw, hexpiry, hfired, hdue⟩ := h.fired e he
    have hsame : w.disarmFor l.id .cancelled = w :=
      Watcher.disarmFor_of_not_armed (by rw [hfired]; decide)
    exact ⟨w, List.mem_map.mpr ⟨w, hw, hsame⟩, hexpiry, hfired, hdue⟩
  · rw [hwatchers]
    refine List.forall_mem_map.mpr fun w hw hfired htrack => ?_
    rcases w.disarmFor_cases l.id .cancelled with ⟨hsame, -⟩ | ⟨hcancelled, -, -⟩
    · rw [hsame] at hfired htrack ⊢
      exact h.reported w hw hfired (tracks_closed.mp htrack).1
    · rw [hcancelled] at hfired
      cases hfired

/-- Ending a lease takes its report off the queue. -/
theorem expire {e : Expiry} {l : Lease} (h : Watched ticks (e :: rest) c)
    (hlease : c.leases.get? e.channel = some l) (hid : l.id = e.lease) :
    Watched ticks rest (c.closed e.channel l) := by
  obtain ⟨w₀, hw₀, hexpiry, hfired, -⟩ := h.fired e List.mem_cons_self
  have hended : Watched ticks (e :: rest) (c.closed e.channel l) := by
    refine h.closed hlease fun w hw hsame harmed => ?_
    have heq := h.eq_of_lease hw hw₀ (by rw [hsame, hid, hexpiry])
    rw [heq, hfired] at harmed
    cases harmed
  exact hended.drop_stray fun htrack => (tracks_closed.mp htrack).2 rfl

end Watched

/-! ### Steps -/

theorem Watched.changed {input : Input} {effects : List Effect} (hc : c.Sound)
    (h : Watched ticks (input.expiry?.toList ++ rest) c)
    (hchange : Changed clock reach c input effects c') : Watched ticks rest c' := by
  cases hchange with
  | released hlease honly hnotes => exact h.released hc hlease
  | @expired channel l notes hlease hnotes =>
    exact Watched.expire (e := ⟨channel, l.id⟩) h hlease rfl
  | strayExpiry e hstray => exact h.drop_stray fun ⟨l, hl, hid⟩ => hstray l hl hid
  | _ => exact h.of_same rfl rfl (Nat.le_refl _) rfl

/-- A step keeps timers and leases together, and takes off the queue what it handles. -/
theorem Watched.stepped {input : Input} {effects : List Effect} (hc : c.Sound)
    (h : Watched ticks (input.expiry?.toList ++ rest) c)
    (hstep : Stepped clock reach c input effects c') : Watched ticks rest c' := by
  cases hstep with
  | intro hchange hdrain => exact (h.changed hc hchange).drained (hchange.sound hc) hdrain

/-- Firing a timer that runs puts its report on the queue. -/
theorem Watched.fire {w : Watcher} (h : Watched ticks expired c) (hw : w ∈ c.watchers)
    (harmed : w.state = .armed) (hdue : w.deadline ≤ ticks) :
    Watched ticks (expired ++ [w.expiry]) (c.fireWatcher w.expiry.lease) := by
  have hwatchers : (c.fireWatcher w.expiry.lease).watchers =
      c.watchers.map (Watcher.disarmFor w.expiry.lease .fired) := rfl
  have hunfired : w.expiry ∉ expired := by
    intro hmem
    obtain ⟨w', hw', hexpiry, hfired, -⟩ := h.fired _ hmem
    have hsame := h.eq_of_lease hw' hw (congrArg Expiry.lease hexpiry)
    rw [hsame, harmed] at hfired
    cases hfired
  obtain ⟨huntimed, hnumbered, hlt, htimed⟩ := h.timers.fireWatcher w.expiry.lease
  refine ⟨huntimed, hnumbered, hlt, htimed, ?_, ?_, ?_, ?_⟩
  · rw [hwatchers]
    refine List.forall_mem_map.mpr fun w' hw' harmed' => ?_
    rcases w'.disarmFor_cases w.expiry.lease .fired with ⟨hsame, -⟩ | ⟨hfired, -, -⟩
    · rw [hsame] at harmed' ⊢
      exact h.tracked w' hw' harmed'
    · rw [hfired] at harmed'
      cases harmed'
  · exact h.expired_nodup.append (List.nodup_singleton _) fun e he hnew =>
      hunfired (List.mem_singleton.mp hnew ▸ he)
  · intro e he
    rcases List.mem_append.mp he with hold | hnew
    · obtain ⟨w', hw', hexpiry, hfired, hdue'⟩ := h.fired e hold
      have hsame : w'.disarmFor w.expiry.lease .fired = w' :=
        Watcher.disarmFor_of_not_armed (by rw [hfired]; decide)
      exact ⟨w', List.mem_map.mpr ⟨w', hw', hsame⟩, hexpiry, hfired, hdue'⟩
    · refine ⟨w.disarmFor w.expiry.lease .fired, List.mem_map_of_mem hw, ?_,
        Watcher.state_disarmFor rfl harmed, ?_⟩
      · exact (w.expiry_disarmFor _ _).trans (List.mem_singleton.mp hnew).symm
      · exact (w.deadline_disarmFor _ _).symm ▸ hdue
  · rw [hwatchers]
    refine List.forall_mem_map.mpr fun w' hw' hfired htrack => ?_
    rw [w'.expiry_disarmFor] at htrack ⊢
    rcases w'.disarmFor_cases w.expiry.lease .fired with ⟨hsame, -⟩ | ⟨-, -, hid⟩
    · rw [hsame] at hfired
      exact List.mem_append_left _ (h.reported w' hw' hfired htrack)
    · rw [h.eq_of_lease hw' hw hid]
      exact List.mem_append_right _ (List.mem_singleton_self _)

end Coordinator

end LeasePool
