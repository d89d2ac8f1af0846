import LeasePool.Proofs.Chapters
import Mathlib.Data.List.Induction

/-!
One station for each pool. As long as stations are started through the registry only, and nothing
crashes them, every call for a pool gets the same station, whatever options it comes with; a call
that fails changes nothing. After the registry was shut down nothing is started any more, and each
station halts in its next turn; that it has stopped is the last thing that its pool reports.

One message can break this: a resize to more slots than can be held crashes the station, which
reports no end, and the next call for the pool starts another one.
-/
namespace LeasePool

open Coordinator (Input)

/-! ### Beginnings and ends -/

/-- Whether an event is about the beginning or the end of a station's work. -/
def Event.isBound : Event → Bool
  | .started _ _ | .stopped => true
  | _ => false

/-- The beginning and the end of a station, if one was started, and if it is closed now. -/
def Event.bounds : Option PoolOptions → Bool → List Event
  | none, _ => []
  | some options, false => [.started options.size options.provisioner.name]
  | some options, true => [.started options.size options.provisioner.name, .stopped]

namespace Coordinator

variable {c c' : Coordinator} {clock : Readings} {reach : String → Bool}

theorem Drained.not_isBound {effects : List Effect} (hdrain : Drained clock reach c effects c') :
    ∀ e ∈ effects.filterMap Effect.event?, e.isBound = false := by
  intro e he
  have hoffer := hdrain.isOffer_event e he
  cases e with
  | started | stopped => cases hoffer
  | _ => rfl

theorem Changed.not_isBound {input : Input} {effects : List Effect}
    (hchange : Changed clock reach c input effects c') :
    ∀ e ∈ effects.filterMap Effect.event?, e.isBound = false := by
  cases hchange with
  | released hlease honly hnotes =>
    rw [List.filterMap_cons_none rfl, filterMap_closing fun _ => rfl]
    exact List.forall_mem_singleton.mpr rfl
  | expired hlease hnotes =>
    rw [filterMap_closing fun _ => rfl]
    exact List.forall_mem_singleton.mpr rfl
  | withdrawn requester hwaits => cases reach requester <;> exact List.forall_mem_singleton.mpr rfl
  | duplicate | queued | resizeRejected | resized => exact List.forall_mem_singleton.mpr rfl
  | _ => exact nofun

theorem Stepped.not_isBound {input : Input} {effects : List Effect}
    (hstep : Stepped clock reach c input effects c') :
    ∀ e ∈ effects.filterMap Effect.event?, e.isBound = false := by
  cases hstep with
  | intro hchange hdrain =>
    rw [List.filterMap_append]
    exact List.forall_mem_append.mpr ⟨hchange.not_isBound, hdrain.not_isBound⟩

namespace Lived

variable {p : PoolName} {options : PoolOptions} {deeds : List Deed} {events : List Event}

theorem resting (h : Lived p options deeds c events) : c.Resting := by
  induction h with
  | created hcreate => exact resting_create hcreate
  | acted h d ih =>
    cases d with
    | handled o => exact ih.step o
    | fired lease => exact ih.fireWatcher lease

/-- A coordinator reports its beginning first, and no other beginning or end later. -/
theorem bounds_eq (h : Lived p options deeds c events) :
    events.filter Event.isBound = [.started options.size options.provisioner.name] := by
  induction h with
  | created hcreate =>
    obtain ⟨-, -, rfl⟩ := create_eq_ok hcreate
    rfl
  | @acted deeds c events h d ih =>
    have hquiet : ((c.act d).2.filterMap Effect.event?).filter Event.isBound = [] := by
      cases d with
      | handled o =>
        exact List.filter_eq_nil_iff.mpr fun e he => by
          simp [(h.resting.stepped o).not_isBound e he]
      | fired lease => rfl
    rw [List.filter_append, hquiet, List.append_nil, ih]

end Lived

end Coordinator

namespace Hub

open Coordinator (Deed)

variable {hub hub' : Hub} {p : PoolName} {id : StationId} {first : Option PoolOptions}
  {options : PoolOptions} {accepted : List Message} {deeds : List Deed}

namespace Chapter

/-- The beginnings and ends that a pool reports. -/
theorem bounds_eq (h : Chapter p hub first accepted deeds) :
    (hub.events p).filter Event.isBound = Event.bounds first (hub.isClosed ⟨p, 0⟩) := by
  cases h with
  | unstarted hsole hlisted hevents => rw [hevents, List.filter_nil, Event.bounds]
  | working h => rw [h.lived.bounds_eq, h.isClosed, Event.bounds]
  | stopped h =>
    obtain ⟨c, reported, hlived, -, hevents⟩ := h.lived
    rw [hevents, List.filter_append, hlived.bounds_eq, h.isClosed]
    rfl

theorem of_isClosed (h : Chapter p hub (some options) accepted deeds)
    (hclosed : hub.isClosed ⟨p, 0⟩ = true) :
    hub.shutDown = true ∧ (hub.events p).getLast? = some .stopped := by
  cases h with
  | working h =>
    rw [h.isClosed] at hclosed
    cases hclosed
  | stopped h =>
    obtain ⟨c, reported, -, -, hevents⟩ := h.lived
    exact ⟨h.shutDown_eq, by rw [hevents, List.getLast?_concat]⟩

/-- After the registry was shut down, a station that still works halts next. -/
theorem halts (h : Chapter p hub (some options) accepted deeds) (hfaulty : hub.faulty = [])
    (hmodest : ∀ m ∈ accepted, m.overflows = false) (hdown : hub.shutDown = true)
    (hopen : hub.isClosed ⟨p, 0⟩ = false) :
    ∃ hub', hub.work? ⟨p, 0⟩ = some hub' ∧ hub'.isClosed ⟨p, 0⟩ = true := by
  cases h with
  | stopped h =>
    rw [h.isClosed] at hopen
    cases hopen
  | @working options s accepted deeds h =>
    have hbusy : (hub.work? ⟨p, 0⟩).isSome = true := by
      rw [isSome_work?, turn?, h.sole.zero, Option.bind_some, Station.take?_eq, h.stopping_eq,
        hdown, Station.isClosed, h.phase_eq]
      rfl
    obtain ⟨hub', hwork⟩ := Option.isSome_iff_exists.mp hbusy
    obtain ⟨-, turn, timed, -, hturn, hhub⟩ := exists_of_work? hwork
    obtain ⟨hplaced, -, -, -⟩ := of_work? hhub
    refine ⟨hub', hwork, ?_⟩
    rcases h.turn_cases hfaulty hmodest hturn with ⟨-, rfl, -⟩ | ⟨hup, -⟩
    · rw [Hub.isClosed, hplaced, station?_setStation, if_pos rfl]
      rfl
    · rw [hdown] at hup
      cases hup

/-- As long as the registry is open, a station with messages that wait has something to do. -/
theorem exists_work? (h : Chapter p hub first accepted deeds) (hdown : hub.shutDown = false)
    (hwaits : deeds.filterMap Deed.message? ≠ accepted) : ∃ hub', hub.work? ⟨p, 0⟩ = some hub' := by
  cases h with
  | unstarted hsole hlisted hevents => exact absurd rfl hwaits
  | stopped h =>
    rw [h.shutDown_eq] at hdown
    cases hdown
  | @working options s accepted deeds h =>
    refine Option.isSome_iff_exists.mp ?_
    rw [isSome_work?, turn?, h.sole.zero, Option.bind_some, Station.take?_eq, h.stopping_eq, hdown,
      Station.isClosed, h.phase_eq]
    cases hnext : s.next? with
    | some next => rfl
    | none =>
      rw [← h.messages_eq, Station.messages_of_next?_eq_none hnext, List.append_nil] at hwaits
      exact absurd rfl hwaits

/-- As long as the registry is open, a station that it gives out takes messages. -/
theorem send_ne_refused (h : Chapter p hub (some options) accepted deeds)
    (hdown : hub.shutDown = false) (m : Message) : hub.send ⟨p, 0⟩ m ≠ .refused := by
  obtain ⟨s, hworking⟩ := h.exists_working_of_open hdown
  have hopen : s.isClosed = false := congrArg (· != Phase.running) hworking.phase_eq
  rw [Hub.send, Hub.post, hworking.sole.zero]
  simp only [Station.post, hopen, Bool.false_eq_true, if_false]
  split <;> intro hrefused <;> cases hrefused

theorem get?_of_shutDown (h : Chapter p hub first accepted deeds) (hdown : hub.shutDown = true) :
    hub.listed.get? p = none := by
  cases h with
  | unstarted hsole hlisted hevents => exact hlisted
  | working h => rw [h.listed_eq, hdown, if_pos rfl]
  | stopped h => exact h.listed_eq

end Chapter

/-! ### What all pools share -/

instance : Nontrivial PoolName := ⟨⟨"", ""⟩, ⟨"", "a"⟩, by decide⟩

/-- What is addressed to one pool leaves alone what all pools share: another pool would notice. -/
theorem shared_operate {o : Operation} (ho : o.pool? = some p) :
    (hub.operate o).1.shutDown = hub.shutDown ∧ (hub.operate o).1.faulty = hub.faulty := by
  obtain ⟨q, hq⟩ := exists_ne p
  have hsame : SameFor q hub (hub.operate o).1 := sameFor_operate ho (Ne.symm hq)
  exact ⟨hsame.shutDown_eq.symm, hsame.faulty_eq.symm⟩

theorem faulty_shutdown (hub : Hub) : hub.shutdown.faulty = hub.faulty := by
  unfold Hub.shutdown
  dsimp only
  generalize hub.listed = ids
  induction ids generalizing hub with
  | nil => rfl
  | cons entry rest ih =>
    rw [List.foldl_cons, ih]
    unfold stop
    split <;> rfl

theorem faulty_operate {o : Operation} (ho : o.isRegular = true) :
    (hub.operate o).1.faulty = hub.faulty := by
  cases hpool : o.pool? with
  | some p => exact (shared_operate hpool).2
  | none =>
    cases o with
    | shutdown => exact faulty_shutdown hub
    | mail _ | pass _ _ => rfl
    | spoil _ => cases ho
    | _ => cases hpool

/-- Only one operation shuts the registry down, and none opens it again. -/
theorem shutDown_operate (hub : Hub) (o : Operation) :
    (hub.operate o).1.shutDown = true ↔ hub.shutDown = true ∨ o = .shutdown := by
  cases hpool : o.pool? with
  | some p =>
    have hne : o ≠ .shutdown := by
      rintro rfl
      cases hpool
    rw [(shared_operate hpool).1, or_iff_left hne]
  | none =>
    cases o with
    | shutdown => exact iff_of_true rfl (Or.inr rfl)
    | mail _ | spoil _ | pass _ _ => exact (or_iff_left nofun).symm
    | _ => cases hpool

/-! ### Runs -/

/-- What holds after every run. -/
structure Ordered (hub : Hub) (acts : List Act) : Prop where
  faulty_eq : hub.faulty = []
  regular : ∀ a ∈ acts, a.operation.isRegular = true
  shutDown_iff : hub.shutDown = true ↔ ∃ a ∈ acts, a.operation = .shutdown
  chapter : ∀ p, Chapter p hub (first? p acts) (Hub.accepted ⟨p, 0⟩ acts) (Hub.deeds ⟨p, 0⟩ acts)
  given : ∀ a ∈ acts, ∀ id, a.given? = some id →
    a.operation.pool? = some id.pool ∧ id.number = 0

variable {acts : List Act}

theorem ordered_idle (clock : Clock) : Ordered (idle clock) [] where
  faulty_eq := rfl
  regular a ha := absurd ha List.not_mem_nil
  shutDown_iff := iff_of_false nofun fun ⟨_, ha, _⟩ => List.not_mem_nil ha
  chapter p := by
    have hstart : Chapter p (idle clock) none [] [] :=
      .unstarted (fun _ => (ite_self none).symm) rfl rfl
    exact hstart
  given a ha := absurd ha List.not_mem_nil

namespace Ordered

/-- No station accepted a message that makes it crash. -/
theorem modest (h : Ordered hub acts) (id : StationId) :
    ∀ m ∈ Hub.accepted id acts, m.overflows = false := by
  intro m hm
  obtain ⟨a, ha, haccepted⟩ := List.mem_filterMap.mp hm
  exact Operation.overflows_of_message? (h.regular a ha) (Act.message?_of_accepted? haccepted)

/-- Whatever a call is given, it is the first station of the pool that the call is about. -/
theorem given_operate (h : Ordered hub acts) {o : Operation} (ho : o.isRegular = true)
    (hgiven : Act.given? ⟨o, (hub.operate o).2⟩ = some id) :
    o.pool? = some id.pool ∧ id.number = 0 := by
  cases o with
  | get pool =>
    obtain rfl := (h.chapter pool).eq_of_get? hgiven
    exact ⟨rfl, rfl⟩
  | getOrStart pool options | signal pool options m =>
    unfold Hub.operate at hgiven
    dsimp only at hgiven
    cases hget : hub.getOrStart pool options with
    | error e =>
      rw [hget] at hgiven
      cases hgiven
    | ok result =>
      rw [hget] at hgiven
      obtain rfl := Option.some.inj hgiven
      obtain ⟨hid, -⟩ := (h.chapter pool).getOrStart hget
      rw [hid]
      exact ⟨rfl, rfl⟩
  | start _ _ => cases ho
  | work other =>
    unfold Hub.operate at hgiven
    dsimp only at hgiven
    split at hgiven <;> cases hgiven
  | expire other lease =>
    unfold Hub.operate at hgiven
    dsimp only at hgiven
    split at hgiven <;> cases hgiven
  | _ => cases hgiven

theorem operate (h : Ordered hub acts) {o : Operation} (ho : o.isRegular = true) :
    Ordered (hub.operate o).1 (acts ++ [⟨o, (hub.operate o).2⟩]) where
  faulty_eq := (faulty_operate ho).trans h.faulty_eq
  regular := List.forall_mem_append.mpr ⟨h.regular, List.forall_mem_singleton.mpr ho⟩
  shutDown_iff := by
    rw [shutDown_operate, h.shutDown_iff]
    simp only [List.mem_append, List.mem_singleton, or_and_right, exists_or, exists_eq_left]
  chapter p := by
    have hnext := (h.chapter p).operate h.faulty_eq (h.modest _) ho
    rwa [first?_concat, accepted_concat, deeds_concat]
  given a ha id hgiven := by
    rcases List.mem_append.mp ha with hold | hnew
    · exact h.given a hold id hgiven
    · obtain rfl := List.mem_singleton.mp hnew
      exact h.given_operate ho hgiven

theorem run (clock : Clock) {os : List Operation} (hos : ∀ o ∈ os, o.isRegular = true) :
    Ordered ((idle clock).run os).1 ((idle clock).run os).2 := by
  induction os using List.reverseRecOn with
  | nil => exact ordered_idle clock
  | append_singleton os o ih =>
    obtain ⟨hbefore, hlast⟩ := List.forall_mem_append.mp hos
    rw [run_concat]
    exact (ih hbefore).operate (hlast o (List.mem_singleton_self o))

end Ordered

/-- A call that asks for the station of a pool fails, with a message or without, and nothing
changes. -/
def Fails (hub : Hub) (p : PoolName) (options : PoolOptions) (e : StartError) : Prop :=
  hub.operate (.getOrStart p options) = (hub, .failed e) ∧
    ∀ m, hub.operate (.signal p options m) = (hub, .failed e)

theorem fails_of_getOrStart {e : StartError}
    (hget : hub.getOrStart p options = .error e) : hub.Fails p options e := by
  constructor
  · rw [Hub.operate, hget]
  · intro m
    rw [Hub.operate, hget]

/-- What can be relied on after some operations on a registry. -/
structure Governed (hub : Hub) (acts : List Act) : Prop where
  /-- Each pool has at most the one station that the first call started. It has done what such a
  station does, with the messages in the order in which they were accepted. -/
  chapter : ∀ p, Chapter p hub (first? p acts) (Hub.accepted ⟨p, 0⟩ acts) (Hub.deeds ⟨p, 0⟩ acts)
  /-- Whoever was given a station was given that one. -/
  given : ∀ a ∈ acts, ∀ id, a.given? = some id →
    a.operation.pool? = some id.pool ∧ id.number = 0
  shutDown_iff : hub.shutDown = true ↔ ∃ a ∈ acts, a.operation = .shutdown
  get?_eq : hub.shutDown = false → ∀ p, hub.get? p = (first? p acts).map fun _ => ⟨p, 0⟩
  /-- As long as the registry is open, the next call for a pool that was started gets the station
  too, and its options change nothing. -/
  again : hub.shutDown = false → ∀ p, (first? p acts).isSome → ∀ options,
    hub.getOrStart p options = .ok (hub, ⟨p, 0⟩) ∧ ∀ m, hub.send ⟨p, 0⟩ m ≠ .refused
  /-- Messages that were accepted and not yet handled give the station something to do. -/
  busy : hub.shutDown = false → ∀ p,
    (Hub.deeds ⟨p, 0⟩ acts).filterMap Deed.message? ≠ Hub.accepted ⟨p, 0⟩ acts →
      ∃ hub', hub.work? ⟨p, 0⟩ = some hub'
  /-- A call for a pool that was not started starts it, with slots, if these and the inbox can be
  held. -/
  anew : hub.shutDown = false → ∀ p, first? p acts = none → ∀ options, 0 < options.size →
    options.Fits → ∃ hub', hub.getOrStart p options = .ok (hub', ⟨p, 0⟩) ∧
      ∀ m, hub'.send ⟨p, 0⟩ m ≠ .refused
  /-- If they cannot be held, it breaks off. -/
  overflow : hub.shutDown = false → ∀ p, first? p acts = none → ∀ options, 0 < options.size →
    ¬ options.Fits → hub.Fails p options .overflow
  /-- Without slots it fails. -/
  invalid : hub.shutDown = false → ∀ p, first? p acts = none → ∀ options, options.size = 0 →
    hub.Fails p options (.refused (.invalidSize 0))
  /-- After the registry was shut down, it is empty and every call fails. -/
  unavailable : hub.shutDown = true → hub.listed = [] ∧
    ∀ p, hub.get? p = none ∧ ∀ options, hub.Fails p options (.refused (unavailable p))
  /-- The beginnings and ends that a pool reports. -/
  bounds_eq : ∀ p, (hub.events p).filter Event.isBound =
    Event.bounds (first? p acts) (hub.isClosed ⟨p, 0⟩)
  /-- No station halts before the registry is shut down, and what it reports last is its end. -/
  closed : ∀ p, (first? p acts).isSome → hub.isClosed ⟨p, 0⟩ = true →
    hub.shutDown = true ∧ (hub.events p).getLast? = some .stopped
  /-- After that, every station that still works halts in its next turn. -/
  halts : hub.shutDown = true → ∀ p, (first? p acts).isSome → hub.isClosed ⟨p, 0⟩ = false →
    ∃ hub', hub.work? ⟨p, 0⟩ = some hub' ∧ hub'.isClosed ⟨p, 0⟩ = true

namespace Ordered

theorem listed_eq_nil (h : Ordered hub acts) (hdown : hub.shutDown = true) : hub.listed = [] := by
  refine List.eq_nil_iff_forall_not_mem.mpr fun entry hentry => ?_
  have hnone := (h.chapter entry.1).get?_of_shutDown hdown
  exact (Assoc.get?_eq_none_iff entry.1 hub.listed).mp hnone (List.mem_map_of_mem hentry)

/-- A call for a pool that was not started tries to start it. -/
theorem getOrStart_of_none (h : Ordered hub acts) (hdown : hub.shutDown = false)
    (hfirst : first? p acts = none) :
    hub.getOrStart p options = (do
      let (hub, id) ← hub.start p options
      return ({ hub with listed := hub.listed.put p id.number }, id)) := by
  have hnone := h.chapter p
  rw [hfirst] at hnone
  rw [getOrStart, hdown, if_neg Bool.false_ne_true, hnone.get?_of_none]

/-- If the coordinator does not start, nothing changes. -/
theorem fails_of_start (h : Ordered hub acts) (hdown : hub.shutDown = false)
    (hfirst : first? p acts = none) {e : StartError}
    (hstart : Coordinator.start p options hub.clock.still = .error e) : hub.Fails p options e := by
  refine fails_of_getOrStart ?_
  rw [h.getOrStart_of_none hdown hfirst, Hub.start, hstart]
  rfl

theorem anew (h : Ordered hub acts) (hdown : hub.shutDown = false)
    (hfirst : first? p acts = none) (hsize : 0 < options.size) (hfits : options.Fits) :
    ∃ hub', hub.getOrStart p options = .ok (hub', ⟨p, 0⟩) ∧
      ∀ m, hub'.send ⟨p, 0⟩ m ≠ .refused := by
  have hnone := h.chapter p
  rw [hfirst] at hnone
  obtain ⟨c, e, hcreate⟩ := Coordinator.exists_create p hub.clock.still hsize
  have hstart : ∃ hub' id, hub.getOrStart p options = .ok (hub', id) := by
    rw [h.getOrStart_of_none hdown hfirst, Hub.start, Coordinator.start_of_fits hfits, hcreate]
    exact ⟨_, _, rfl⟩
  obtain ⟨hub', id, hget⟩ := hstart
  obtain ⟨rfl, hafter⟩ := hnone.getOrStart hget
  refine ⟨hub', hget, hafter.send_ne_refused ?_⟩
  have hoperate : (hub.operate (.getOrStart p options)).1.shutDown = hub.shutDown :=
    (shared_operate rfl).1
  rw [Hub.operate, hget] at hoperate
  exact hoperate.trans hdown

theorem governed (h : Ordered hub acts) : Governed hub acts where
  chapter := h.chapter
  given := h.given
  shutDown_iff := h.shutDown_iff
  get?_eq hdown p := by
    have hp := h.chapter p
    cases hfirst : first? p acts with
    | none => exact (hfirst ▸ hp).get?_of_none
    | some options => exact (hfirst ▸ hp).get?_of_some hdown
  again hdown p hfirst options := by
    obtain ⟨first, hfirst⟩ := Option.isSome_iff_exists.mp hfirst
    have hp := h.chapter p
    rw [hfirst] at hp
    refine ⟨?_, hp.send_ne_refused hdown⟩
    simp only [getOrStart, hdown, Bool.false_eq_true, if_false, hp.get?_of_some hdown]
  busy hdown p hwaits := (h.chapter p).exists_work? hdown hwaits
  anew hdown p hfirst options hsize hfits := h.anew hdown hfirst hsize hfits
  overflow hdown p hfirst options hsize hover :=
    h.fails_of_start hdown hfirst (Coordinator.start_of_not_fits hsize hover)
  invalid hdown p hfirst options hsize :=
    h.fails_of_start hdown hfirst (Coordinator.start_of_size_eq_zero hsize)
  unavailable hdown := by
    refine ⟨h.listed_eq_nil hdown, fun p => ⟨?_, fun options => fails_of_getOrStart ?_⟩⟩
    · rw [get?, h.listed_eq_nil hdown]
      rfl
    · rw [getOrStart, if_pos hdown]
  bounds_eq p := (h.chapter p).bounds_eq
  closed p hfirst hclosed := by
    obtain ⟨first, hfirst⟩ := Option.isSome_iff_exists.mp hfirst
    have hp := h.chapter p
    rw [hfirst] at hp
    exact hp.of_isClosed hclosed
  halts hdown p hfirst hopen := by
    obtain ⟨first, hfirst⟩ := Option.isSome_iff_exists.mp hfirst
    have hp := h.chapter p
    rw [hfirst] at hp
    exact hp.halts h.faulty_eq (h.modest _) hdown hopen

end Ordered

/-- As long as stations are started and stopped through the registry only, and neither a requester
nor a resize to more slots than can be held crashes them, each pool gets at most one station in the
whole life of the registry. -/
theorem run_governed (clock : Clock) {os : List Operation} (hos : ∀ o ∈ os, o.isRegular = true) :
    Governed ((idle clock).run os).1 ((idle clock).run os).2 :=
  (Ordered.run clock hos).governed

/-- Two calls with different options, a call that fails for another pool, and the end. -/
theorem run_governed_two :
    let p : PoolName := ⟨"a", "bc"⟩
    let q : PoolName := ⟨"ab", "c"⟩
    let os : List Operation := [.mail (.register ⟨p, "r"⟩), .getOrStart p .default,
      .signal p ⟨7, none, .plain, 1⟩ (.request "r" 0), .getOrStart q ⟨0, none, .plain, 1⟩,
      .work ⟨p, 0⟩, .shutdown, .work ⟨p, 0⟩]
    (∀ o ∈ os, o.isRegular = true) ∧
      ((idle default).run os).1.events p =
        [.started 3 "default", .granted "r" "bc-0" 0 none, .stopped] ∧
      Governed ((idle default).run os).1 ((idle default).run os).2 :=
  ⟨by decide, rfl, run_governed _ (by decide)⟩

/-- A resize to the largest number of 64 bits ends the station that the first call started. The
registry is open and no requester is faulty; the pool reports no end, and the next call starts a
second station. -/
theorem run_resize_startsTwice :
    let p : PoolName := ⟨"a", "bc"⟩
    let hub := ((idle default).run [.getOrStart p .default, .send ⟨p, 0⟩ (.resize Text.wordMax),
      .work ⟨p, 0⟩, .getOrStart p .default]).1
    hub.shutDown = false ∧ hub.faulty = [] ∧ hub.isClosed ⟨p, 0⟩ = true ∧
      hub.get? p = some ⟨p, 1⟩ ∧
      hub.events p = [.started 3 "default", .started 3 "default"] := by
  decide +kernel

end Hub

end LeasePool
