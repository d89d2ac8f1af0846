import LeasePool.Proofs.Timers
import Mathlib.Data.List.Induction

/-!
Lease timeouts over the life of a station. Messages arrive, time passes, timers that are due fire
and the station takes its turns, in any order. Every event is dated with the time at which it was
reported; so the log tells since when a requester holds its slot, and that agrees with the leases as
long as the station works. A lease is reported to have run out only when its time is up, and once
every timer that is due has fired and been handled, no lease is older than the timeout.
-/
namespace LeasePool

/-- The readings, but for the running clock, which shows one time throughout. -/
def Readings.stopped (now : Readings) (ticks : Nat) : Readings :=
  { now with granted := fun _ => ticks, ended := ticks }

/-- The requester whose lease ran out, and for how long it was held. -/
def Event.ranOut? : Event → Option (String × Duration)
  | .released requester _ .timedOut held => some (requester, held)
  | _ => none

/-- An event and when it was reported. -/
structure Dated where
  ticks : Nat
  event : Event
deriving DecidableEq, Repr

namespace Dated

/-- The events among some effects, all reported at one time. -/
def ofEffects (ticks : Nat) (effects : List Effect) : List Dated :=
  (effects.filterMap Effect.event?).map (Dated.mk ticks)

/-- What an event changes about the time since which a requester holds a slot. -/
def holding (requester : String) (since : Option Nat) (d : Dated) : Option Nat :=
  match d.event with
  | .granted q _ _ _ => if q = requester then some d.ticks else since
  | .released q _ _ _ => if q = requester then none else since
  | _ => since

/-- Since when a requester holds a slot, as a log tells. -/
def heldSince (requester : String) (log : List Dated) : Option Nat :=
  log.foldl (holding requester) none

/-- If a lease is reported to have run out, its time is up. The log before tells since when it was
held. -/
def Due (timeout : Option Duration) (before : List Dated) (d : Dated) : Prop :=
  ∀ requester held, d.event.ranOut? = some (requester, held) →
    ∃ t since, timeout = some t ∧ heldSince requester before = some since ∧
      since + t.nanos ≤ d.ticks ∧ held = Duration.between since d.ticks

/-- No lease in a log ran out before its time. -/
def Punctual (timeout : Option Duration) (log : List Dated) : Prop :=
  ∀ before d after, log = before ++ d :: after → d.Due timeout before

variable {timeout : Option Duration} {log more : List Dated} {d : Dated}

theorem ofEffects_append (ticks : Nat) (first more : List Effect) :
    ofEffects ticks (first ++ more) = ofEffects ticks first ++ ofEffects ticks more := by
  rw [ofEffects, List.filterMap_append, List.map_append]
  rfl

theorem heldSince_append (requester : String) (log more : List Dated) :
    heldSince requester (log ++ more) = more.foldl (holding requester) (heldSince requester log) :=
  List.foldl_append

theorem due_of_not_ranOut (hquiet : d.event.ranOut? = none) : d.Due timeout log := by
  intro requester held hran
  rw [hquiet] at hran
  cases hran

namespace Punctual

theorem nil : Punctual timeout [] := fun before d after hsplit => by simp at hsplit

theorem concat (h : Punctual timeout log) (hdue : d.Due timeout log) :
    Punctual timeout (log ++ [d]) := by
  intro before d' after hsplit
  rcases List.eq_nil_or_concat after with rfl | ⟨after, last, rfl⟩
  · obtain ⟨rfl, hd⟩ := List.append_inj' hsplit rfl
    obtain rfl := List.singleton_inj.mp hd
    exact hdue
  · rw [List.concat_eq_append, ← List.cons_append, ← List.append_assoc] at hsplit
    exact h before d' after (List.append_inj' hsplit rfl).1

theorem append (h : Punctual timeout log) (hquiet : ∀ d ∈ more, d.event.ranOut? = none) :
    Punctual timeout (log ++ more) := by
  induction more using List.reverseRecOn with
  | nil => rwa [List.append_nil]
  | append_singleton more d ih =>
    rw [← List.append_assoc]
    exact (ih fun d hd => hquiet d (List.mem_append_left _ hd)).concat
      (due_of_not_ranOut (hquiet d (List.mem_append_right _ (List.mem_singleton_self d))))

end Punctual

end Dated

namespace Coordinator

open Dated (Punctual heldSince)

variable {c c' : Coordinator} {now : Readings} {ticks : Nat} {reach : String → Bool}
  {log : List Dated}

/-! ### What the log tells -/

/-- The log tells since when the leases are held. -/
def Told (c : Coordinator) (log : List Dated) : Prop :=
  ∀ requester, heldSince requester log =
    (c.leases.get? (releaseChannel requester)).map Lease.grantedAt

namespace Told

theorem granted {requester resource : String} {index : Nat} {timeout : Option Duration}
    (h : c.Told log) : (c.granted (now.stopped ticks) index requester).Told
      (log ++ [⟨ticks, .granted requester resource index timeout⟩]) := by
  intro other
  rw [Dated.heldSince_append, h other, granted_leases]
  by_cases hr : requester = other
  · simp [Dated.holding, hr, Readings.stopped]
  · have hchannel : ¬ releaseChannel requester = releaseChannel other :=
      fun heq => hr (releaseChannel_injective heq)
    simp [Dated.holding, hr, hchannel]

theorem closed {channel : String} {l : Lease} {reason : ReleaseReason} {held : Duration}
    (h : c.Told log) (hc : c.Sound) (hlease : c.leases.get? channel = some l) :
    (c.closed channel l).Told (log ++ [⟨ticks, .released l.requester l.index reason held⟩]) := by
  obtain ⟨rfl, -⟩ := hc.grant_of_lease channel l hlease
  intro other
  rw [Dated.heldSince_append, h other, closed_leases]
  by_cases hr : l.requester = other
  · simp [Dated.holding, hr]
  · have hchannel : ¬ releaseChannel l.requester = releaseChannel other :=
      fun heq => hr (releaseChannel_injective heq)
    simp [Dated.holding, hr, hchannel]

theorem offer {requester : String} {effects : List Effect} (h : c.Told log)
    (hoffer : Offer (now.stopped ticks) reach c requester effects c') :
    c'.Told (log ++ Dated.ofEffects ticks effects) := by
  cases hoffer with
  | granted index s hfirst hreach => exact h.granted
  | refused index s hfirst hreach =>
    intro other
    rw [Dated.heldSince_append]
    exact h other

theorem drained {effects : List Effect} (h : c.Told log)
    (hdrain : Drained (now.stopped ticks) reach c effects c') :
    c'.Told (log ++ Dated.ofEffects ticks effects) := by
  induction hdrain generalizing log with
  | done hrest => rwa [Dated.ofEffects, List.filterMap_nil, List.map_nil, List.append_nil]
  | @serve c c' c'' r queue effects more hfree hqueue hoffer hmore ih =>
    have hpopped : (c.withQueue queue).Told log := h
    rw [Dated.ofEffects_append, ← List.append_assoc]
    exact ih (hpopped.offer hoffer)

theorem changed {input : Input} {effects : List Effect} (h : c.Told log) (hc : c.Sound)
    (hchange : Changed (now.stopped ticks) reach c input effects c') :
    c'.Told (log ++ Dated.ofEffects ticks effects) := by
  cases hchange with
  | @released channel only l notes hlease honly hnotes =>
    have hsame : (c.cancelWatcher l.id).Told log := h
    rw [Dated.ofEffects, List.filterMap_cons_none rfl, filterMap_closing fun _ => rfl]
    exact hsame.closed (hc.cancelWatcher l.id) hlease
  | expired hlease hnotes =>
    rw [Dated.ofEffects, filterMap_closing fun _ => rfl]
    exact h.closed hc hlease
  | withdrawn requester hwaits =>
    intro other
    rw [Dated.heldSince_append]
    cases reach requester <;> exact h other
  | _ =>
    intro other
    rw [Dated.heldSince_append]
    exact h other

theorem stepped {input : Input} {effects : List Effect} (h : c.Told log) (hc : c.Sound)
    (hstep : Stepped (now.stopped ticks) reach c input effects c') :
    c'.Told (log ++ Dated.ofEffects ticks effects) := by
  cases hstep with
  | intro hchange hdrain =>
    rw [Dated.ofEffects_append, ← List.append_assoc]
    exact (h.changed hc hchange).drained hdrain

end Told

/-! ### Leases that run out -/

theorem Drained.not_ranOut {effects : List Effect} (hdrain : Drained now reach c effects c') :
    ∀ e ∈ effects.filterMap Effect.event?, e.ranOut? = none := by
  intro e he
  have hoffer := hdrain.isOffer_event e he
  cases e with
  | released => cases hoffer
  | _ => rfl

/-- The first event of a step may be that a lease ran out, which is then the one that the input
names. No other event is. -/
theorem Stepped.ranOut_cases {input : Input} {effects : List Effect}
    (hstep : Stepped now reach c input effects c') :
    (∀ e ∈ effects.filterMap Effect.event?, e.ranOut? = none) ∨
      ∃ channel l rest, c.leases.get? channel = some l ∧ input = .expiry ⟨channel, l.id⟩ ∧
        effects.filterMap Effect.event? = .released l.requester l.index .timedOut
          (Duration.between l.grantedAt now.ended) :: rest ∧
        ∀ e ∈ rest, e.ranOut? = none := by
  cases hstep with
  | intro hchange hdrain =>
    rw [List.filterMap_append]
    cases hchange with
    | @expired channel l notes hlease hnotes =>
      refine Or.inr ⟨channel, l, _, hlease, rfl, ?_, hdrain.not_ranOut⟩
      rw [filterMap_closing fun _ => rfl]
      rfl
    | released hlease honly hnotes =>
      refine Or.inl (List.forall_mem_append.mpr ⟨?_, hdrain.not_ranOut⟩)
      rw [List.filterMap_cons_none rfl, filterMap_closing fun _ => rfl]
      exact List.forall_mem_singleton.mpr rfl
    | withdrawn requester hwaits =>
      refine Or.inl (List.forall_mem_append.mpr ⟨?_, hdrain.not_ranOut⟩)
      cases reach requester <;> exact List.forall_mem_singleton.mpr rfl
    | duplicate | queued | resizeRejected | resized =>
      exact Or.inl (List.forall_mem_append.mpr
        ⟨List.forall_mem_singleton.mpr rfl, hdrain.not_ranOut⟩)
    | _ => exact Or.inl hdrain.not_ranOut

/-- Even if a step breaks off in the middle, no lease runs out before its time. -/
theorem Told.punctual {input : Input} {effects part : List Effect} {rest : List Expiry}
    (h : c.Told log) (hc : c.Sound)
    (hwatched : Watched ticks (input.expiry?.toList ++ rest) c)
    (hpunctual : Punctual c.leaseTimeout log)
    (hstep : Stepped (now.stopped ticks) reach c input effects c')
    (hpart : part <+: effects) :
    Punctual c.leaseTimeout (log ++ Dated.ofEffects ticks part) := by
  have hevents : part.filterMap Effect.event? <+: effects.filterMap Effect.event? :=
    hpart.filterMap _
  rcases hstep.ranOut_cases with hquiet | ⟨channel, l, after, hlease, rfl, heffects, hquiet⟩
  · exact hpunctual.append (List.forall_mem_map.mpr fun e he => hquiet e (hevents.subset he))
  · rw [heffects] at hevents
    rcases List.prefix_cons_iff.mp hevents with hnil | ⟨after', hcons, hafter⟩
    · rw [Dated.ofEffects, hnil]
      exact hpunctual.append nofun
    · rw [Dated.ofEffects, hcons, List.map_cons, List.append_cons]
      refine (hpunctual.concat ?_).append
        (List.forall_mem_map.mpr fun e he => hquiet e (hafter.subset he))
      obtain ⟨t, htimeout, hdue⟩ := hwatched.due List.mem_cons_self hlease rfl
      obtain ⟨hchannel, -⟩ := hc.grant_of_lease channel l hlease
      rintro requester held hran
      obtain ⟨rfl, rfl⟩ := Prod.mk.inj (Option.some.inj hran)
      refine ⟨t, l.grantedAt, htimeout, ?_, hdue, rfl⟩
      rw [h l.requester, ← hchannel, hlease]
      rfl

end Coordinator

/-! ### The life of a station -/

/-- A station, the clock, and everything that was reported. -/
structure Shift where
  station : Station
  ticks : Nat
  log : List Dated
deriving Repr

/-- Something that happens to a station. Whom its responses reach, and who can still send to it, is
up to others. -/
inductive Incident where
  | post (e : Envelope)
  | pass (nanos : Nat)
  /-- The timer of a lease fires, if it is due. -/
  | fire (lease : Nat)
  /-- The station takes the next thing that it has to do, while the running clock stands still. -/
  | turn (now : Readings) (reach faulty : String → Bool) (held : Bool)
  /-- The station is told to halt. -/
  | stop

namespace Shift

open Coordinator (Watched)
open Dated (Punctual heldSince)

variable {s : Shift} {timeout : Option Duration}

def start (c : Coordinator) (capacity ticks : Nat) (e : Event) : Shift :=
  ⟨.employ c capacity, ticks, [⟨ticks, e⟩]⟩

def after (s : Shift) : Incident → Shift
  | .post e =>
    match s.station.post e with
    | .accepted station => { s with station }
    | .full | .refused => s
  | .pass nanos => { s with ticks := s.ticks + nanos }
  | .fire lease =>
    match s.station.fire? s.ticks lease with
    | some station => { s with station }
    | none => s
  | .turn now reach faulty held =>
    match s.station.take? (now.stopped s.ticks) reach faulty held with
    | some turn =>
      { s with station := turn.station, log := s.log ++ Dated.ofEffects s.ticks turn.effects }
    | none => s
  | .stop => { s with station := { s.station with stopping := true } }

def run (s : Shift) (incidents : List Incident) : Shift := incidents.foldl after s

def coordinator (s : Shift) : Coordinator := s.station.coordinator

/-- A station at work: its timers belong to its leases, of which the log tells. -/
structure Working (s : Shift) : Prop where
  resting : s.coordinator.Resting
  watched : Watched s.ticks s.station.expired s.coordinator
  told : s.coordinator.Told s.log

/-- What every incident keeps. A station that has left only keeps its log. -/
structure Orderly (timeout : Option Duration) (s : Shift) : Prop where
  leaseTimeout_eq : s.coordinator.leaseTimeout = timeout
  punctual : Punctual timeout s.log
  working : s.station.isClosed = false → s.Working

theorem orderly_start {name : PoolName} {options : PoolOptions} {now : Readings}
    {c : Coordinator} {e : Event} (hcreate : Coordinator.create name options now = .ok (c, e))
    (capacity ticks : Nat) : Orderly options.leaseTimeout (start c capacity ticks e) := by
  have hresting := Coordinator.resting_create hcreate
  have hwatched := Coordinator.watched_create hcreate ticks
  obtain ⟨-, rfl, rfl⟩ := Coordinator.create_eq_ok hcreate
  exact ⟨rfl, Punctual.nil.concat (Dated.due_of_not_ranOut rfl), fun _ =>
    ⟨hresting, hwatched, fun _ => rfl⟩⟩

theorem Orderly.fire (h : Orderly timeout s) (lease : Nat) :
    Orderly timeout (s.after (.fire lease)) := by
  unfold after
  dsimp only
  cases hfire : s.station.fire? s.ticks lease with
  | none => exact h
  | some station =>
    obtain ⟨hopen, w, hw, rfl, harmed, hdue, rfl⟩ := Station.fire?_eq_some hfire
    obtain ⟨hresting, hwatched, htold⟩ := h.working hopen
    exact ⟨h.leaseTimeout_eq, h.punctual, fun _ =>
      ⟨hresting.fireWatcher _, hwatched.fire hw harmed hdue, htold⟩⟩

theorem Orderly.turn (h : Orderly timeout s) (now : Readings) (reach faulty : String → Bool)
    (held : Bool) : Orderly timeout (s.after (.turn now reach faulty held)) := by
  unfold after
  dsimp only
  cases htake : s.station.take? (now.stopped s.ticks) reach faulty held with
  | none => exact h
  | some turn =>
    obtain ⟨hopen, hacts⟩ := Station.acts_of_take? htake
    cases hacts with
    | halts =>
      refine ⟨h.leaseTimeout_eq, ?_, nofun⟩
      exact h.punctual.append (List.forall_mem_singleton.mpr rfl)
    | @handles input query hgoes hnext =>
      obtain ⟨hresting, hwatched, htold⟩ := h.working hopen
      unfold coordinator at hresting hwatched htold
      rw [Station.expired_eq_of_next? hnext] at hwatched
      have hstep := hresting.stepped ⟨now.stopped s.ticks, reach, input⟩
      have hpunctual := h.punctual
      rw [← h.leaseTimeout_eq] at hpunctual
      have hpart {part : List Effect} (hpart : part <+: _) :=
        htold.punctual hresting.toSound hwatched hpunctual hstep hpart
      rw [← h.leaseTimeout_eq]
      rcases s.station.rest.handle_cases (now.stopped s.ticks) reach faulty input query with
        heq | ⟨n, heq⟩ <;> rw [heq, Station.rest_coordinator]
      · refine ⟨hstep.sameSettings.leaseTimeout_eq, hpart (List.prefix_refl _), fun _ => ?_⟩
        exact ⟨hresting.step ⟨now.stopped s.ticks, reach, input⟩,
          hwatched.stepped hresting.toSound hstep, htold.stepped hresting.toSound hstep⟩
      · refine ⟨?_, hpart (List.take_prefix n _), nofun⟩
        exact congrArg Coordinator.leaseTimeout s.station.rest_coordinator

theorem Orderly.after (h : Orderly timeout s) (i : Incident) : Orderly timeout (s.after i) := by
  cases i with
  | post e =>
    unfold Shift.after
    dsimp only
    cases hpost : s.station.post e with
    | accepted station =>
      obtain ⟨hopen, rfl⟩ := Station.post_eq_accepted hpost
      obtain ⟨hresting, hwatched, htold⟩ := h.working hopen
      exact ⟨h.leaseTimeout_eq, h.punctual, fun _ => ⟨hresting, hwatched, htold⟩⟩
    | full | refused => exact h
  | pass nanos =>
    exact ⟨h.leaseTimeout_eq, h.punctual, fun hopen => ⟨(h.working hopen).resting,
      (h.working hopen).watched.later (Nat.le_add_right _ _), (h.working hopen).told⟩⟩
  | fire lease => exact h.fire lease
  | turn now reach faulty held => exact h.turn now reach faulty held
  | stop =>
    exact ⟨h.leaseTimeout_eq, h.punctual, fun hopen =>
      ⟨(h.working hopen).resting, (h.working hopen).watched, (h.working hopen).told⟩⟩

theorem Orderly.run (h : Orderly timeout s) (incidents : List Incident) :
    Orderly timeout (s.run incidents) := by
  induction incidents generalizing s with
  | nil => exact h
  | cons i incidents ih => exact ih (h.after i)

/-! ### Leases and their timers -/

/-- The one timer that was started for a lease. It runs until the time of the lease is up, or it
has fired and its one report waits. -/
def Minded (s : Shift) (t : Duration) (channel : String) (l : Lease) : Prop :=
  ∃ w, s.coordinator.watchers.filter (fun w => w.expiry = ⟨channel, l.id⟩) = [w] ∧
    (w.state = .armed ∧ w.deadline = l.grantedAt + t.nanos ∧ w.expiry ∉ s.station.expired ∨
      w.state = .fired ∧ s.station.expired.count w.expiry = 1)

/-- Leases last no longer than the timeout, except for those that are about to be taken back, which
nothing keeps from being so. -/
structure Reclaims (t : Duration) (s : Shift) : Prop where
  told : ∀ requester, heldSince requester s.log =
    (s.coordinator.leases.get? (releaseChannel requester)).map Lease.grantedAt
  held : ∀ requester, (s.coordinator.pool.grants.get? requester).isSome =
    (heldSince requester s.log).isSome
  minded : ∀ channel l, s.coordinator.leases.get? channel = some l → s.Minded t channel l
  ended : ∀ w ∈ s.coordinator.watchers, ¬ s.coordinator.Tracks w.expiry →
    w.state = .cancelled ∨ w.state = .fired
  /-- A timer that is due can fire, and reports its lease. -/
  fires : ∀ w ∈ s.station.armed, w.deadline ≤ s.ticks →
    ∃ station, s.station.fire? s.ticks w.expiry.lease = some station ∧
      station.expired = s.station.expired ++ [w.expiry]
  reclaimed : (∀ w ∈ s.station.armed, s.ticks < w.deadline) → s.station.expired = [] →
    ∀ requester since, heldSince requester s.log = some since → s.ticks < since + t.nanos

theorem Working.minded {t : Duration} {channel : String} {l : Lease} (h : s.Working)
    (htimeout : s.coordinator.leaseTimeout = some t)
    (hlease : s.coordinator.leases.get? channel = some l) : s.Minded t channel l := by
  obtain ⟨w, hw, hexpiry, hdeadline, hstate⟩ := h.watched.timed t htimeout channel l hlease
  have honly := h.watched.filter_expiry_eq hw
  rw [hexpiry] at honly
  refine ⟨w, honly, ?_⟩
  cases hcase : w.state with
  | armed =>
    refine Or.inl ⟨rfl, hdeadline, fun hmem => ?_⟩
    obtain ⟨w', hw', hexpiry', hfired, -⟩ := h.watched.fired _ hmem
    rw [h.watched.eq_of_lease hw' hw (congrArg Expiry.lease hexpiry'), hcase] at hfired
    cases hfired
  | fired =>
    refine Or.inr ⟨rfl, List.count_eq_one_of_mem h.watched.expired_nodup ?_⟩
    exact h.watched.reported w hw hcase (hexpiry ▸ ⟨l, hlease, rfl⟩)
  | cancelled => exact absurd hcase hstate

theorem Working.held (h : s.Working) (requester : String) :
    (s.coordinator.pool.grants.get? requester).isSome = (heldSince requester s.log).isSome := by
  rw [h.told, Option.isSome_map]
  cases hgrant : s.coordinator.pool.grants.get? requester with
  | some index =>
    obtain ⟨l, hl, -⟩ := h.resting.lease_of_grant requester index hgrant
    rw [hl]
    rfl
  | none =>
    cases hlease : s.coordinator.leases.get? (releaseChannel requester) with
    | none => rfl
    | some l =>
      obtain ⟨hchannel, hheld⟩ := h.resting.grant_of_lease _ l hlease
      rw [← releaseChannel_injective hchannel, hgrant] at hheld
      cases hheld

theorem Working.fires {w : Watcher} (h : s.Working) (hw : w ∈ s.station.armed)
    (hdue : w.deadline ≤ s.ticks) :
    ∃ station, s.station.fire? s.ticks w.expiry.lease = some station ∧
      station.expired = s.station.expired ++ [w.expiry] := by
  have hlisted {v : Watcher} (hv : v ∈ s.station.armed) : v ∈ s.coordinator.watchers := by
    unfold Station.armed at hv
    split at hv
    · cases hv
    · exact List.mem_of_mem_filter hv
  have htimer : s.station.timer? w.expiry.lease = some w := by
    cases hfound : s.station.timer? w.expiry.lease with
    | none => exact absurd (decide_eq_true rfl) (List.find?_eq_none.mp hfound w hw)
    | some v =>
      have hlease : v.expiry.lease = w.expiry.lease := by simpa using List.find?_some hfound
      have hv := hlisted (List.mem_of_find?_eq_some hfound)
      rw [h.watched.eq_of_lease hv (hlisted hw) hlease]
  refine ⟨{ s.station with
    coordinator := s.coordinator.fireWatcher w.expiry.lease
    expired := s.station.expired ++ [w.expiry] }, ?_, rfl⟩
  rw [Station.fire?, htimer, Option.filter_some, if_pos (decide_eq_true hdue)]
  rfl

theorem Working.reclaims {t : Duration} (h : s.Working) (hopen : s.station.isClosed = false)
    (htimeout : s.coordinator.leaseTimeout = some t) : s.Reclaims t where
  told := h.told
  held := h.held
  minded _ _ hlease := h.minded htimeout hlease
  ended w hw hstray := by
    cases hcase : w.state with
    | armed => exact absurd (h.watched.tracked w hw hcase) hstray
    | cancelled => exact Or.inl rfl
    | fired => exact Or.inr rfl
  fires _ hw hdue := h.fires hw hdue
  reclaimed harmed hempty requester since hsince := by
    rw [h.told] at hsince
    obtain ⟨l, hlease, rfl⟩ := Option.map_eq_some_iff.mp hsince
    obtain ⟨w, honly, ⟨hstate, hdeadline, -⟩ | ⟨-, hcount⟩⟩ := h.minded htimeout hlease
    · have hmem : w ∈ s.coordinator.watchers :=
        List.mem_of_mem_filter (honly ▸ List.mem_singleton_self w)
      rw [← hdeadline]
      refine harmed w ?_
      unfold Station.armed
      rw [hopen]
      exact List.mem_filter.mpr ⟨hmem, decide_eq_true hstate⟩
    · rw [hempty] at hcount
      cases hcount

/-- Whatever happens to the station of a new coordinator, each lease that it tracks has the one
timer that takes it back in time, and no lease ran out before. Without a lease timeout none ever
runs out. -/
theorem create_run_reclaims {name : PoolName} {options : PoolOptions} {now : Readings}
    {c : Coordinator} {e : Event} (hcreate : Coordinator.create name options now = .ok (c, e))
    (ticks : Nat) (incidents : List Incident) :
    let s := (start c options.capacity ticks e).run incidents
    (∀ t, options.leaseTimeout = some t → s.station.isClosed = false → s.Reclaims t) ∧
      Punctual options.leaseTimeout s.log ∧
      (options.leaseTimeout = none → ∀ d ∈ s.log, d.event.ranOut? = none) := by
  have h := (orderly_start hcreate options.capacity ticks).run incidents
  refine ⟨fun t htimeout hopen => (h.working hopen).reclaims hopen ?_, h.punctual, ?_⟩
  · rw [h.leaseTimeout_eq, htimeout]
  · intro hnone d hd
    obtain ⟨before, later, hsplit⟩ := List.append_of_mem hd
    cases hran : d.event.ranOut? with
    | none => rfl
    | some ran =>
      obtain ⟨t, since, htimeout, -⟩ := h.punctual before d later hsplit ran.1 ran.2 hran
      rw [hnone] at htimeout
      cases htimeout

/-- Two requesters and one slot. The first holds it until its time is up, then the second does. -/
theorem create_run_reclaims_two :
    ∃ c e, Coordinator.create ⟨"space", "gpu"⟩ ⟨1, some ⟨5, by decide⟩, .plain, 1000⟩ default =
        .ok (c, e) ∧
      let turn := Incident.turn default (fun _ => true) (fun _ => false) true
      let s := (start c 1000 0 e).run
        [.post ⟨.request "a" 0, none⟩, .post ⟨.request "b" 0, none⟩, turn, turn, .pass 5, .fire 0,
          turn]
      s.log.filterMap (fun d => d.event.ranOut?.map fun ran => (d.ticks, ran.1)) = [(5, "a")] ∧
        heldSince "b" s.log = some 5 ∧ s.Reclaims ⟨5, by decide⟩ ∧
        Punctual (some ⟨5, by decide⟩) s.log := by
  have hcreate : Coordinator.create ⟨"space", "gpu"⟩ ⟨1, some ⟨5, by decide⟩, .plain, 1000⟩
      default = .ok (_, _) := rfl
  obtain ⟨hreclaims, hpunctual, -⟩ := create_run_reclaims hcreate 0
    [.post ⟨.request "a" 0, none⟩, .post ⟨.request "b" 0, none⟩,
      .turn default (fun _ => true) (fun _ => false) true,
      .turn default (fun _ => true) (fun _ => false) true, .pass 5, .fire 0,
      .turn default (fun _ => true) (fun _ => false) true]
  exact ⟨_, _, hcreate, rfl, rfl, hreclaims _ rfl rfl, hpunctual⟩

end Shift

end LeasePool
