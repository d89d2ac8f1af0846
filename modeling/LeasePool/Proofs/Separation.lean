import LeasePool.Proofs.Operations
import Mathlib.Data.List.Induction

/-!
Pools do not interfere, although they share the registry and the exchange and although their names
may read the same. If a pool finds everything the same in two hubs, then it does so after any
operation on both, and what is addressed to it has the same outcome. So it makes no difference to a
pool if everything that was addressed to another one is left out of a run.
-/
namespace LeasePool

open Coordinator (Input Occasion)

/-! ### Stations -/

/-- The turn, less the numbers of the queries. -/
def Turn.anonymous (t : Turn) : Turn := ⟨t.station.anonymous, t.effects, t.query.map fun _ => 0⟩

namespace Station

variable {s s' : Station}

theorem handle_anonymous (s : Station) (clock : Readings) (reach faulty : String → Bool)
    (input : Input) (query : Option Nat) :
    s.anonymous.handle clock reach faulty input (query.map fun _ => 0) =
      (s.handle clock reach faulty input query).anonymous := by
  have hcoordinator : s.anonymous.coordinator = s.coordinator := rfl
  unfold handle
  dsimp only
  rw [hcoordinator]
  split
  · rfl
  · cases (s.coordinator.step clock reach input).2.findIdx? (isFatal faulty) <;> rfl

theorem next?_anonymous (s : Station) : s.anonymous.next? =
    s.next?.map fun (input, query) => (input, query.map fun _ => 0) := by
  obtain ⟨c, capacity, inbox, expired, stopping, phase⟩ := s
  cases expired with
  | cons e rest => rfl
  | nil => cases inbox <;> rfl

theorem rest_anonymous (s : Station) : s.anonymous.rest = s.rest.anonymous := by
  obtain ⟨c, capacity, inbox, expired, stopping, phase⟩ := s
  cases expired with
  | cons e rest => rfl
  | nil => cases inbox <;> rfl

theorem take?_anonymous (s : Station) (clock : Readings) (reach faulty : String → Bool)
    (held : Bool) : s.anonymous.take? clock reach faulty held =
      (s.take? clock reach faulty held).map Turn.anonymous := by
  have hclosed : s.anonymous.isClosed = s.isClosed := rfl
  have hstopping : s.anonymous.stopping = s.stopping := rfl
  rw [take?_eq, take?_eq, hclosed, hstopping, next?_anonymous]
  cases s.isClosed with
  | true => rfl
  | false =>
    cases s.stopping with
    | true => rfl
    | false =>
      rcases s.next? with _ | ⟨input, query⟩
      · cases held <;> rfl
      · simp only [Option.map_some, Bool.false_eq_true, if_false, rest_anonymous,
          handle_anonymous]

theorem input?_anonymous (s : Station) : s.anonymous.input? = s.input? := by
  have hstopping : s.anonymous.stopping = s.stopping := rfl
  unfold input?
  rw [next?_anonymous, hstopping, Option.map_map]
  rfl

theorem fire?_anonymous (s : Station) (ticks lease : Nat) :
    s.anonymous.fire? ticks lease = (s.fire? ticks lease).map anonymous := by
  have htimer : s.anonymous.timer? lease = s.timer? lease := rfl
  unfold fire?
  rw [htimer, Option.map_map]
  rfl

theorem post_anonymous (s : Station) (e : Envelope) :
    s.anonymous.post e.anonymous = (s.post e).map anonymous := by
  have hclosed : s.anonymous.isClosed = s.isClosed := rfl
  have hlength : s.anonymous.inbox.length = s.inbox.length := List.length_map _
  have hfull : s.anonymous.isFull = s.isFull := by
    unfold isFull
    rw [hclosed, hlength]
    rfl
  unfold post
  rw [hclosed, hfull]
  cases s.isClosed with
  | true => rfl
  | false =>
    cases s.isFull with
    | true => rfl
    | false =>
      simp only [Bool.false_eq_true, if_false, Posting.map, anonymous, List.map_append]
      rfl

end Station

namespace Hub

variable {hub hub' : Hub} {p : PoolName}

/-! ### Two attempts -/

/-- Two attempts to send that go the same way. -/
inductive BothSent (p : PoolName) : Posting Hub → Posting Hub → Prop where
  | accepted {hub hub' : Hub} (h : SameFor p hub hub') : BothSent p (.accepted hub) (.accepted hub')
  | full : BothSent p .full .full
  | refused : BothSent p .refused .refused

/-- Two attempts to have a station of a pool that go the same way. -/
inductive BothHad (p : PoolName) : Except StartError (Hub × StationId) →
    Except StartError (Hub × StationId) → Prop where
  | ok {hub hub' : Hub} (n : Nat) (h : SameFor p hub hub') :
      BothHad p (.ok (hub, ⟨p, n⟩)) (.ok (hub', ⟨p, n⟩))
  | error (e : StartError) : BothHad p (.error e) (.error e)

namespace SameFor

theorem station?_cases (h : SameFor p hub hub') (n : Nat) :
    hub.station? ⟨p, n⟩ = none ∧ hub'.station? ⟨p, n⟩ = none ∨
      ∃ s s', hub.station? ⟨p, n⟩ = some s ∧ hub'.station? ⟨p, n⟩ = some s' ∧
        s.anonymous = s'.anonymous := by
  have hsame := h.station_eq n
  cases hs : hub.station? ⟨p, n⟩ <;> cases hs' : hub'.station? ⟨p, n⟩
  case none.none => exact Or.inl ⟨rfl, rfl⟩
  case some.some =>
    rw [hs, hs'] at hsame
    exact Or.inr ⟨_, _, rfl, rfl, Option.some.inj hsame⟩
  all_goals
    rw [hs, hs'] at hsame
    cases hsame

theorem setStation {s s' : Station} (h : SameFor p hub hub') (n : Nat)
    (hsame : s.anonymous = s'.anonymous) :
    SameFor p (hub.setStation ⟨p, n⟩ s) (hub'.setStation ⟨p, n⟩ s') := by
  refine { h with station_eq := fun m => ?_, started_eq := ?_ }
  · rw [station?_setStation, station?_setStation]
    split
    · exact congrArg some hsame
    · exact h.station_eq m
  · have hnone : (hub.station? ⟨p, n⟩).isNone = (hub'.station? ⟨p, n⟩).isNone := by
      rcases h.station?_cases n with ⟨hs, hs'⟩ | ⟨s, s', hs, hs', -⟩
      · rw [hs, hs']
      · rw [hs, hs']
        rfl
    rw [started_setStation, started_setStation, hnone, h.started_eq]

theorem report (h : SameFor p hub hub') (e : Event) :
    SameFor p (hub.report p e) (hub'.report p e) :=
  { h with events_eq := by rw [events_report, events_report, h.events_eq] }

theorem use (h : SameFor p hub hub') {u : Exchange.Use} {a : Address}
    (ha : u.address? = some a) (hpool : a.pool = p) :
    SameFor p { hub with exchange := (hub.exchange.use u).1 }
        { hub' with exchange := (hub'.exchange.use u).1 } ∧
      (hub.exchange.use u).2 = (hub'.exchange.use u).2 := by
  subst hpool
  have hrow : hub.exchange.row a = hub'.exchange.row a := h.row_eq a.requester
  obtain ⟨hused, hfinding⟩ := Exchange.use_of_row ha hrow
  refine ⟨{ h with row_eq := fun q => ?_ }, hfinding⟩
  by_cases hq : a = ⟨a.pool, q⟩
  · rw [← hq]
    exact hused
  · exact (Exchange.row_use_of_ne ha hq).trans
      ((h.row_eq q).trans (Exchange.row_use_of_ne ha hq).symm)

theorem isClosed_eq (h : SameFor p hub hub') (n : Nat) :
    hub.isClosed ⟨p, n⟩ = hub'.isClosed ⟨p, n⟩ := by
  unfold isClosed
  rcases h.station?_cases n with ⟨hs, hs'⟩ | ⟨s, s', hs, hs', hsame⟩ <;> rw [hs, hs']
  have hclosed : s.anonymous.isClosed = s'.anonymous.isClosed := congrArg Station.isClosed hsame
  exact hclosed

theorem listed_eq (h : SameFor p hub hub') : hub.listed.get? p = hub'.listed.get? p := by
  rw [← get?_entries, ← get?_entries, h.entries_eq]

theorem get?_eq (h : SameFor p hub hub') : hub.get? p = hub'.get? p := by
  unfold get?
  rw [h.listed_eq]
  cases hub'.listed.get? p with
  | none => rfl
  | some n => simp only [h.isClosed_eq n]

theorem isHeld_eq (h : SameFor p hub hub') (n : Nat) :
    hub.isHeld ⟨p, n⟩ = hub'.isHeld ⟨p, n⟩ := by
  have hmem : hub.handles.contains ⟨p, n⟩ = hub'.handles.contains ⟨p, n⟩ := by
    rw [Bool.eq_iff_iff, List.contains_iff_mem, List.contains_iff_mem, ← List.count_pos_iff,
      ← List.count_pos_iff, h.handles_eq]
  unfold isHeld
  rw [h.listed_eq, hmem]

theorem reach_eq (h : SameFor p hub hub') : hub.reach p = hub'.reach p := by
  funext q
  unfold reach Exchange.isRegistered
  rw [h.row_eq]

/-! ### The registry -/

theorem start (h : SameFor p hub hub') (options : PoolOptions) :
    BothHad p (hub.start p options) (hub'.start p options) := by
  have hnumber : hub.nextId p = hub'.nextId p := congrArg (StationId.mk p) h.started_eq
  cases hcreate : Coordinator.start p options hub.clock.still with
  | error e =>
    have hstart : hub.start p options = .error e := by
      unfold Hub.start
      rw [hcreate]
      rfl
    have hstart' : hub'.start p options = .error e := by
      unfold Hub.start
      rw [← h.clock_eq, hcreate]
      rfl
    rw [hstart, hstart']
    exact .error e
  | ok result =>
    have hstart : hub.start p options = .ok
        ((hub.setStation (hub.nextId p) (.employ result.1 options.capacity)).report p result.2,
          hub.nextId p) := by
      unfold Hub.start
      rw [hcreate]
      rfl
    have hstart' : hub'.start p options = .ok
        ((hub'.setStation (hub'.nextId p) (.employ result.1 options.capacity)).report p result.2,
          hub'.nextId p) := by
      unfold Hub.start
      rw [← h.clock_eq, hcreate]
      rfl
    rw [hstart, hstart', ← hnumber]
    exact .ok _ ((h.setStation _ rfl).report _)

theorem list (h : SameFor p hub hub') (n : Nat) :
    SameFor p { hub with listed := hub.listed.put p n }
      { hub' with listed := hub'.listed.put p n } :=
  { h with entries_eq := by rw [entries_put, entries_put, h.entries_eq] }

theorem getOrStart (h : SameFor p hub hub') (options : PoolOptions) :
    BothHad p (hub.getOrStart p options) (hub'.getOrStart p options) := by
  unfold Hub.getOrStart
  rw [← h.shutDown_eq, ← h.get?_eq]
  split
  · exact .error _
  · cases hget : hub.get? p with
    | some id =>
      obtain rfl : id.pool = p := pool_of_get? hget
      exact .ok id.number h
    | none =>
      have hstart := h.start options
      cases hresult : hub.start p options with
      | error e =>
        rw [hresult] at hstart
        cases hresult' : hub'.start p options with
        | error e' =>
          rw [hresult'] at hstart
          cases hstart
          exact .error e
        | ok result =>
          rw [hresult'] at hstart
          cases hstart
      | ok result =>
        rw [hresult] at hstart
        cases hresult' : hub'.start p options with
        | error e' =>
          rw [hresult'] at hstart
          cases hstart
        | ok result' =>
          rw [hresult'] at hstart
          cases hstart with
          | ok n hsame => exact .ok n (hsame.list n)

/-! ### Stations -/

theorem stop (h : SameFor p hub hub') (n : Nat) :
    SameFor p (hub.stop ⟨p, n⟩) (hub'.stop ⟨p, n⟩) := by
  unfold Hub.stop
  rcases h.station?_cases n with ⟨hs, hs'⟩ | ⟨s, s', hs, hs', hsame⟩ <;> rw [hs, hs']
  · exact h
  · exact h.setStation n (congrArg (fun s : Station => { s with stopping := true }) hsame)

theorem post (h : SameFor p hub hub') (n : Nat) {e e' : Envelope}
    (he : e.anonymous = e'.anonymous) :
    BothSent p (hub.post ⟨p, n⟩ e) (hub'.post ⟨p, n⟩ e') := by
  unfold Hub.post
  rcases h.station?_cases n with ⟨hs, hs'⟩ | ⟨s, s', hs, hs', hsame⟩ <;> rw [hs, hs']
  · exact .refused
  · have hpost := s.post_anonymous e
    rw [hsame, he, s'.post_anonymous] at hpost
    dsimp only
    cases hp : s.post e <;> cases hp' : s'.post e' <;> rw [hp, hp'] at hpost
    case accepted.accepted t t' =>
      exact .accepted (h.setStation n (Posting.accepted.inj hpost).symm)
    case full.full => exact .full
    case refused.refused => exact .refused
    all_goals cases hpost

theorem ask (h : SameFor p hub hub') (n : Nat) (m : Message) :
    BothSent p (hub.ask ⟨p, n⟩ m) (hub'.ask ⟨p, n⟩ m) := by
  have hpost : BothSent p (hub.post ⟨p, n⟩ ⟨m, some hub.asked⟩)
    (hub'.post ⟨p, n⟩ ⟨m, some hub'.asked⟩) := h.post n rfl
  unfold Hub.ask
  generalize hub.post ⟨p, n⟩ ⟨m, some hub.asked⟩ = sent at hpost ⊢
  generalize hub'.post ⟨p, n⟩ ⟨m, some hub'.asked⟩ = sent' at hpost ⊢
  cases hpost with
  | accepted hsame => exact .accepted { hsame with }
  | full => exact .full
  | refused => exact .refused

theorem fire? (h : SameFor p hub hub') (n lease : Nat) :
    hub.fire? ⟨p, n⟩ lease = none ∧ hub'.fire? ⟨p, n⟩ lease = none ∨
      ∃ hub₁ hub₁', hub.fire? ⟨p, n⟩ lease = some hub₁ ∧
        hub'.fire? ⟨p, n⟩ lease = some hub₁' ∧ SameFor p hub₁ hub₁' := by
  unfold Hub.fire?
  rcases h.station?_cases n with ⟨hs, hs'⟩ | ⟨s, s', hs, hs', hsame⟩ <;> rw [hs, hs']
  · exact Or.inl ⟨rfl, rfl⟩
  · have hfire := s.fire?_anonymous hub.clock.ticks lease
    rw [hsame, s'.fire?_anonymous] at hfire
    simp only [Option.bind_eq_bind, Option.bind_some, ← h.clock_eq]
    cases ht : s.fire? hub.clock.ticks lease <;> cases ht' : s'.fire? hub.clock.ticks lease <;>
      rw [ht, ht'] at hfire
    case none.none => exact Or.inl ⟨rfl, rfl⟩
    case some.some t t' =>
      exact Or.inr ⟨_, _, rfl, rfl, h.setStation n (Option.some.inj hfire).symm⟩
    all_goals cases hfire

/-! ### Work -/

theorem occasion?_eq (h : SameFor p hub hub') (n : Nat) :
    hub.occasion? ⟨p, n⟩ = hub'.occasion? ⟨p, n⟩ := by
  unfold occasion?
  rw [← h.clock_eq, ← h.reach_eq]
  rcases h.station?_cases n with ⟨hs, hs'⟩ | ⟨s, s', hs, hs', hsame⟩ <;> rw [hs, hs']
  rw [Option.bind_some, Option.bind_some, ← s.input?_anonymous, ← s'.input?_anonymous, hsame]

theorem turn?_eq (h : SameFor p hub hub') (n : Nat) :
    (hub.turn? ⟨p, n⟩).map Turn.anonymous = (hub'.turn? ⟨p, n⟩).map Turn.anonymous := by
  unfold turn?
  rw [← h.clock_eq, ← h.reach_eq, ← h.faulty_eq, ← h.isHeld_eq]
  rcases h.station?_cases n with ⟨hs, hs'⟩ | ⟨s, s', hs, hs', hsame⟩ <;> rw [hs, hs']
  rw [Option.bind_some, Option.bind_some, ← s.take?_anonymous, ← s'.take?_anonymous, hsame]

theorem carryOut (h : SameFor p hub hub') (query query' : Option Nat) (effect : Effect) :
    SameFor p (hub.carryOut p query effect) (hub'.carryOut p query' effect) := by
  rcases effect with ⟨requester, r, _ | _⟩ | e | n | a
  · exact h
  · have hused := (h.use (u := .deliver ⟨p, requester⟩ r) rfl rfl).1
    rw [Exchange.use_deliver, Exchange.use_deliver] at hused
    rw [carryOut_delivery, carryOut_delivery]
    exact hused
  · exact h.report e
  · exact h
  · cases query <;> cases query' <;> exact { h with }

theorem foldl_carryOut (h : SameFor p hub hub') (query query' : Option Nat)
    (effects : List Effect) :
    SameFor p (effects.foldl (Hub.carryOut p query) hub)
      (effects.foldl (Hub.carryOut p query') hub') := by
  induction effects generalizing hub hub' with
  | nil => exact h
  | cons effect rest ih => exact ih (h.carryOut query query' effect)

theorem work? (h : SameFor p hub hub') (n : Nat) :
    hub.work? ⟨p, n⟩ = none ∧ hub'.work? ⟨p, n⟩ = none ∨
      ∃ hub₁ hub₁', hub.work? ⟨p, n⟩ = some hub₁ ∧ hub'.work? ⟨p, n⟩ = some hub₁' ∧
        SameFor p hub₁ hub₁' := by
  have hturns := h.turn?_eq n
  have hworks : (hub.work? ⟨p, n⟩).isSome = (hub'.work? ⟨p, n⟩).isSome := by
    rw [isSome_work?, isSome_work?, ← Option.isSome_map (f := Turn.anonymous), hturns,
      Option.isSome_map]
  cases hwork : hub.work? ⟨p, n⟩ with
  | none =>
    rw [hwork] at hworks
    exact Or.inl ⟨rfl, Option.isNone_iff_eq_none.mp (by simpa using hworks)⟩
  | some hub₁ =>
    rw [hwork] at hworks
    obtain ⟨hub₁', hwork'⟩ := Option.isSome_iff_exists.mp hworks.symm
    refine Or.inr ⟨hub₁, hub₁', rfl, hwork', ?_⟩
    obtain ⟨-, turn, timed, -, hturn, rfl⟩ := exists_of_work? hwork
    obtain ⟨-, turn', timed', -, hturn', rfl⟩ := exists_of_work? hwork'
    rw [hturn, hturn'] at hturns
    have hsame : turn.anonymous = turn'.anonymous := Option.some.inj hturns
    have heffects : turn.anonymous.effects = turn'.anonymous.effects :=
      congrArg Turn.effects hsame
    have htimed : SameFor p { hub with timed } { hub' with timed := timed' } := { h with }
    have hcarried := (htimed.setStation n (congrArg Turn.station hsame)).foldl_carryOut
      turn.query turn'.query turn.effects
    rwa [show turn.effects = turn'.effects from heffects] at hcarried ⊢

theorem effects_eq (h : SameFor p hub hub') (n : Nat) :
    (hub.turn? ⟨p, n⟩).elim [] Turn.effects = (hub'.turn? ⟨p, n⟩).elim [] Turn.effects := by
  have hturns := h.turn?_eq n
  cases hturn : hub.turn? ⟨p, n⟩ <;> cases hturn' : hub'.turn? ⟨p, n⟩ <;>
    rw [hturn, hturn'] at hturns
  case some.some turn turn' =>
    have heffects : turn.anonymous.effects = turn'.anonymous.effects :=
      congrArg Turn.effects (Option.some.inj hturns)
    exact heffects
  all_goals cases hturns

/-! ### Shutting down -/

theorem foldl_stop (h : SameFor p hub hub') (ids : Assoc PoolName Nat) :
    SameFor p (ids.foldl (fun hub (pool, number) => hub.stop ⟨pool, number⟩) hub)
      ((ids.filter fun e => e.1 = p).foldl (fun hub (pool, number) => hub.stop ⟨pool, number⟩)
        hub') := by
  induction ids generalizing hub hub' with
  | nil => exact h
  | cons entry rest ih =>
    obtain ⟨pool, n⟩ := entry
    by_cases hp : pool = p
    · subst hp
      rw [List.filter_cons_of_pos (by simp)]
      exact ih (h.stop n)
    · rw [List.filter_cons_of_neg (by simpa using hp)]
      exact ih ((sameFor_stop hp).symm.trans h)

theorem shutdown (h : SameFor p hub hub') : SameFor p hub.shutdown hub'.shutdown := by
  have hentries := h.entries_eq
  unfold entries at hentries
  have hleft := h.foldl_stop hub.listed
  have hright := (SameFor.refl p hub').foldl_stop hub'.listed
  rw [hentries] at hleft
  have hstopped := hleft.trans hright.symm
  exact { hstopped with shutDown_eq := rfl, entries_eq := rfl }

/-! ### Operations -/

theorem settle {sent sent' : Posting Hub} (h : SameFor p hub hub') (hsent : BothSent p sent sent')
    (n : Nat) : SameFor p (hub.settle sent) (hub'.settle sent') ∧
      Outcome.sent ⟨p, n⟩ (sent.map fun _ => ()) = .sent ⟨p, n⟩ (sent'.map fun _ => ()) := by
  cases hsent with
  | accepted hsame => exact ⟨hsame, rfl⟩
  | full | refused => exact ⟨h, rfl⟩

/-- What is addressed to a pool does the same to it and has the same outcome wherever the pool finds
everything the same. -/
theorem operate_own (h : SameFor p hub hub') {o : Operation} (ho : o.pool? = some p) :
    SameFor p (hub.operate o).1 (hub'.operate o).1 ∧
      (hub.operate o).2 = (hub'.operate o).2 := by
  cases o with
  | get pool =>
    obtain rfl := Option.some.inj ho
    exact ⟨h, congrArg Outcome.found h.get?_eq⟩
  | getOrStart pool options =>
    obtain rfl := Option.some.inj ho
    have hboth := h.getOrStart options
    unfold operate
    dsimp only
    generalize hub.getOrStart pool options = result at hboth ⊢
    generalize hub'.getOrStart pool options = result' at hboth ⊢
    cases hboth with
    | ok n hsame => exact ⟨hsame, rfl⟩
    | error e => exact ⟨h, rfl⟩
  | signal pool options m =>
    obtain rfl := Option.some.inj ho
    have hboth := h.getOrStart options
    unfold operate
    dsimp only
    generalize hub.getOrStart pool options = result at hboth ⊢
    generalize hub'.getOrStart pool options = result' at hboth ⊢
    cases hboth with
    | ok n hsame => exact hsame.settle (hsame.post n rfl) n
    | error e => exact ⟨h, rfl⟩
  | start pool options =>
    obtain rfl := Option.some.inj ho
    have hboth := h.start options
    unfold operate
    dsimp only
    generalize hub.start pool options = result at hboth ⊢
    generalize hub'.start pool options = result' at hboth ⊢
    cases hboth with
    | ok n hsame => exact ⟨hsame, rfl⟩
    | error e => exact ⟨h, rfl⟩
  | stop id =>
    obtain rfl := Option.some.inj ho
    exact ⟨h.stop id.number, rfl⟩
  | addHandle id =>
    obtain rfl := Option.some.inj ho
    refine ⟨{ h with handles_eq := fun n => ?_ }, rfl⟩
    have hcount : (id :: hub.handles).count ⟨id.pool, n⟩ =
        (id :: hub'.handles).count ⟨id.pool, n⟩ := by
      rw [List.count_cons, List.count_cons, h.handles_eq]
    exact hcount
  | dropHandle id =>
    obtain rfl := Option.some.inj ho
    refine ⟨{ h with handles_eq := fun n => ?_ }, rfl⟩
    have hcount : (hub.handles.erase id).count ⟨id.pool, n⟩ =
        (hub'.handles.erase id).count ⟨id.pool, n⟩ := by
      rw [List.count_erase, List.count_erase, h.handles_eq]
    exact hcount
  | send id m =>
    obtain rfl := Option.some.inj ho
    exact h.settle (h.post id.number rfl) id.number
  | ask id m =>
    obtain rfl := Option.some.inj ho
    exact h.settle (h.ask id.number m) id.number
  | mail u =>
    obtain ⟨a, ha, hpool⟩ := Option.map_eq_some_iff.mp ho
    obtain ⟨hused, hfinding⟩ := h.use ha hpool
    exact ⟨hused, congrArg Outcome.mail hfinding⟩
  | work id =>
    obtain rfl := Option.some.inj ho
    unfold operate
    dsimp only
    rcases h.work? id.number with ⟨hnone, hnone'⟩ | ⟨hub₁, hub₁', hwork, hwork', hsame⟩
    · rw [show hub.work? id = none from hnone, show hub'.work? id = none from hnone']
      exact ⟨h, rfl⟩
    · rw [show hub.work? id = some hub₁ from hwork, show hub'.work? id = some hub₁' from hwork']
      refine ⟨hsame, ?_⟩
      dsimp only
      rw [show hub.occasion? id = hub'.occasion? id from h.occasion?_eq id.number,
        show _ = _ from h.effects_eq id.number]
  | expire id lease =>
    obtain rfl := Option.some.inj ho
    unfold operate
    dsimp only
    rcases h.fire? id.number lease with ⟨hnone, hnone'⟩ | ⟨hub₁, hub₁', hfire, hfire', hsame⟩
    · rw [show hub.fire? id lease = none from hnone, show hub'.fire? id lease = none from hnone']
      exact ⟨h, rfl⟩
    · rw [show hub.fire? id lease = some hub₁ from hfire,
        show hub'.fire? id lease = some hub₁' from hfire']
      exact ⟨hsame, rfl⟩
  | shutdown | spoil _ | pass _ _ => cases ho

/-- What is addressed to no pool does the same to all. -/
theorem operate_common (h : SameFor p hub hub') {o : Operation} (ho : o.pool? = none) :
    SameFor p (hub.operate o).1 (hub'.operate o).1 := by
  cases o with
  | shutdown => exact h.shutdown
  | spoil requester => exact { h with faulty_eq := congrArg (requester :: ·) h.faulty_eq }
  | pass wall nanos =>
    refine { h with clock_eq := ?_ }
    exact congrArg (fun clock : Clock => (⟨wall, clock.ticks + nanos⟩ : Clock)) h.clock_eq
  | mail u => cases u <;> first | exact h | cases ho
  | _ => cases ho

end SameFor

/-! ### Runs -/

/-- What was addressed to a pool, and what came of it. -/
def dealings (p : PoolName) (acts : List Act) : List Act :=
  acts.filter fun act => act.operation.pool? = some p

/-- The run without the operations that are addressed to a pool. -/
def without (q : PoolName) (os : List Operation) : List Operation :=
  os.filter fun o => o.pool? ≠ some q

theorem dealings_concat (p : PoolName) (acts : List Act) (act : Act) :
    dealings p (acts ++ [act]) =
      if act.operation.pool? = some p then dealings p acts ++ [act] else dealings p acts := by
  rw [dealings, List.filter_append]
  by_cases hp : act.operation.pool? = some p <;> simp [hp, dealings]

theorem without_concat (q : PoolName) (os : List Operation) (o : Operation) :
    without q (os ++ [o]) =
      if o.pool? = some q then without q os else without q os ++ [o] := by
  rw [without, List.filter_append]
  by_cases hq : o.pool? = some q <;> simp [hq, without]

/-- If everything that is addressed to one pool is left out of a run, another pool ends up with the
same stations, the same events and the same mailboxes, and whatever is addressed to it has the same
outcome. -/
theorem run_without {p q : PoolName} (hne : p ≠ q) (hub : Hub) (os : List Operation) :
    SameFor p (hub.run os).1 (hub.run (without q os)).1 ∧
      dealings p (hub.run os).2 = dealings p (hub.run (without q os)).2 := by
  induction os using List.reverseRecOn with
  | nil => exact ⟨.refl p hub, rfl⟩
  | append_singleton os o ih =>
    obtain ⟨hsame, hdealings⟩ := ih
    rw [run_concat, without_concat]
    dsimp only
    rw [dealings_concat]
    by_cases hq : o.pool? = some q
    · have hforeign : ¬ o.pool? = some p := by
        rw [hq, Option.some.injEq]
        exact Ne.symm hne
      rw [if_pos hq, if_neg hforeign]
      exact ⟨(sameFor_operate hq (Ne.symm hne)).symm.trans hsame, hdealings⟩
    · rw [if_neg hq, run_concat]
      dsimp only
      rw [dealings_concat]
      by_cases hp : o.pool? = some p
      · obtain ⟨hafter, houtcome⟩ := hsame.operate_own hp
        rw [if_pos hp, if_pos hp, houtcome, hdealings]
        exact ⟨hafter, rfl⟩
      · rw [if_neg hp, if_neg hp]
        refine ⟨?_, hdealings⟩
        cases hpool : o.pool? with
        | none => exact hsame.operate_common hpool
        | some r =>
          have hr : r ≠ p := fun heq => hp (hpool.trans (congrArg some heq))
          exact ((sameFor_operate hpool hr).symm.trans hsame).trans (sameFor_operate hpool hr)

/-- One requester gets a slot from each of two pools whose names read the same. Both grants have the
same lease id and the same release channel. -/
theorem run_without_alike :
    let p : PoolName := ⟨"a", "bc"⟩
    let q : PoolName := ⟨"ab", "c"⟩
    let os : List Operation := [.mail (.register ⟨p, "r"⟩), .mail (.register ⟨q, "r"⟩),
      .signal p .default (.request "r" 0), .signal q .default (.request "r" 0), .work ⟨q, 0⟩,
      .work ⟨p, 0⟩, .send ⟨q, 0⟩ (.release (releaseChannel "r") (some 0)), .work ⟨q, 0⟩]
    p ≠ q ∧ p.coordinatorId = q.coordinatorId ∧
      ((idle default).run os).1.events p =
        [.started 3 "default", .granted "r" "bc-0" 0 none] ∧
      SameFor p ((idle default).run os).1 ((idle default).run (without q os)).1 ∧
      dealings p ((idle default).run os).2 = dealings p ((idle default).run (without q os)).2 :=
  ⟨by decide, by decide, rfl, run_without (by decide) _ _⟩

end Hub

end LeasePool
