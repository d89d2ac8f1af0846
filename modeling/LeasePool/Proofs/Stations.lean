import LeasePool.Proofs.Desks

/-!
Stations that start and work. The registry starts a station only when none of the pool is at work,
so that the pool never has two; a station that works carries out what its coordinator does, and what
it crashes at stays undone.
-/
namespace LeasePool.Hub

open Coordinator (Input Stepped Resting)

variable {hub hub' : Hub} {id : StationId} {e : Envelope}

/-! ### Starting -/

/-- The station that the registry gives may be a new one. -/
inductive Obtained (hub : Hub) (id : StationId) (hub' : Hub) : Prop where
  | listed (hsame : hub' = hub)
  | started (hstarted : Started hub id hub')

/-- The id for the next station of a pool. -/
def nextId (hub : Hub) (pool : PoolName) : StationId :=
  ⟨pool, hub.stations.keys.countP fun other => other.pool = pool⟩

theorem Sound.station?_nextId (h : hub.Sound) (pool : PoolName) :
    hub.station? (hub.nextId pool) = none := by
  rw [station?, Assoc.get?_eq_none_iff]
  intro hkey
  exact Nat.lt_irrefl _ (h.numbered _ hkey)

/-- What starting a station comes to. -/
theorem start_eq_ok {pool : PoolName} {options : PoolOptions}
    (hstart : hub.start pool options = .ok (hub', id)) :
    ∃ c e, Coordinator.create pool options hub.clock.still = .ok (c, e) ∧ id = hub.nextId pool ∧
      hub' = (hub.setStation id (.employ c options.capacity)).report pool e := by
  unfold start at hstart
  cases hstarted : Coordinator.start pool options hub.clock.still with
  | error e =>
    rw [hstarted] at hstart
    cases hstart
  | ok result =>
    obtain ⟨c, e⟩ := result
    rw [hstarted] at hstart
    obtain ⟨hhub, hid⟩ := Prod.mk.inj (Except.ok.inj hstart)
    exact ⟨c, e, Coordinator.create_of_start hstarted, hid.symm, hid ▸ hhub.symm⟩

theorem Sound.numbered_setStation (h : hub.Sound) (pool : PoolName) (s : Station) :
    ∀ id ∈ (hub.setStation (hub.nextId pool) s).stations.keys, id.number <
      (hub.setStation (hub.nextId pool) s).stations.keys.countP
        fun other => other.pool = id.pool := by
  have hkeys : (hub.setStation (hub.nextId pool) s).stations.keys =
      hub.stations.keys ++ [hub.nextId pool] := by
    unfold Hub.setStation
    simp only [Assoc.put_of_get?_eq_none s (h.station?_nextId pool), Assoc.keys, List.map_append,
      List.map_cons, List.map_nil]
  intro id hid
  rw [hkeys] at hid ⊢
  rw [List.countP_append]
  rcases List.mem_append.mp hid with hold | hnew
  · exact Nat.lt_add_right _ (h.numbered id hold)
  · rw [List.mem_singleton.mp hnew]
    exact Nat.lt_add_of_pos_right (List.countP_pos_iff.mpr ⟨_, List.mem_singleton_self _, by simp⟩)

theorem desk?_employ {pool : PoolName} {options : PoolOptions} {now : Readings}
    {c : Coordinator} {e : Event} (hcreate : Coordinator.create pool options now = .ok (c, e)) :
    (Station.employ c options.capacity).desk? = some ⟨c, []⟩ := by
  obtain ⟨-, rfl, -⟩ := Coordinator.create_eq_ok hcreate
  rfl

theorem Sound.started {pool : PoolName} {options : PoolOptions} (h : hub.Sound)
    (hstart : hub.start pool options = .ok (hub', id)) : Started hub id hub' := by
  obtain ⟨c, e, hcreate, rfl, rfl⟩ := start_eq_ok hstart
  refine ⟨?_, ⟨c, ?_, ?_, fun other => ?_⟩, rfl, rfl, rfl⟩
  · rw [desk?, h.station?_nextId]
    rfl
  · obtain ⟨-, rfl, -⟩ := Coordinator.create_eq_ok hcreate
    rfl
  · obtain ⟨-, rfl, -⟩ := Coordinator.create_eq_ok hcreate
    rfl
  · rw [← desk?_employ hcreate]
    exact desk?_setStation hub _ other _

/-- A new station may be listed for its pool if no station of the pool is at work. -/
theorem Sound.start {pool : PoolName} {options : PoolOptions} (h : hub.Sound)
    (hnone : ∀ id, id.pool = pool → hub.desk? id = none)
    (hstart : hub.start pool options = .ok (hub', id)) :
    ({ hub' with listed := hub'.listed.put pool id.number } : Hub).Sound := by
  obtain ⟨-, ⟨c', -, -, hdesks⟩, -, -, -⟩ := h.started hstart
  obtain ⟨c, e, hcreate, hid, rfl⟩ := start_eq_ok hstart
  have hpool : id.pool = pool := by rw [hid]; rfl
  -- whoever is at work for the pool now is the new station
  have hnew (other : StationId) (hopen : (((hub.setStation id
      (.employ c options.capacity)).report pool e).desk? other).isSome) :
      id = other ∨ (hub.desk? other).isSome ∧ other.pool ≠ pool := by
    by_cases heq : id = other
    · exact Or.inl heq
    · rw [hdesks, if_neg heq] at hopen
      refine Or.inr ⟨hopen, fun hsame => ?_⟩
      rw [hnone other hsame] at hopen
      cases hopen
  constructor
  · exact h.exchange
  · intro other s hs hopen
    have hs' := (station?_setStation hub id other _).symm.trans hs
    split at hs'
    · rw [← Option.some.inj hs']
      exact Coordinator.resting_create hcreate
    · exact h.resting other s hs' hopen
  · rw [hid]
    exact h.numbered_setStation pool _
  · intro other hopen
    rcases hnew other hopen with rfl | ⟨hold, hne⟩
    · left
      rw [hpool, Assoc.get?_put, if_pos rfl]
    · refine (h.listed other hold).imp_left fun hlisted => ?_
      rw [Assoc.get?_put, if_neg (Ne.symm hne)]
      exact hlisted
  · intro a b ha hb hab
    rcases hnew a ha with rfl | ⟨hold, hne⟩
    · rcases hnew b hb with rfl | ⟨-, hne'⟩
      · rfl
      · exact absurd (hab.symm.trans hpool) hne'
    · rcases hnew b hb with rfl | ⟨hold', -⟩
      · exact absurd (hab.trans hpool) hne
      · exact h.sole a b hold hold' hab
  · intro other d envelope q hd he hq
    have hd' : _ = some d := (hdesks other).symm.trans hd
    split at hd'
    · rw [← Option.some.inj hd'] at he
      cases he
    · exact h.query_lt other d envelope q hd' he hq
  · exact h.answer_lt

/-- If the registry has no station at work for a pool, there is none. -/
theorem Sound.desk?_of_get?_eq_none {pool : PoolName} (h : hub.Sound)
    (hdown : hub.shutDown = false) (hget : hub.get? pool = none) (hpool : id.pool = pool) :
    hub.desk? id = none := by
  by_contra hopen
  have hsome := Option.isSome_iff_ne_none.mpr hopen
  rcases h.listed id hsome with hlisted | hshut
  · rw [hpool] at hlisted
    rw [get?, hlisted] at hget
    have hid : (⟨pool, id.number⟩ : StationId) = id := by rw [← hpool]
    simp only [hid] at hget
    unfold desk? at hopen
    cases hs : hub.station? id with
    | none => simp [hs] at hopen
    | some s =>
      cases hclosed : s.isClosed with
      | true => simp [hs, Station.desk?, hclosed] at hopen
      | false => simp [isClosed, hs, hclosed] at hget
  · rw [hdown] at hshut
    cases hshut

theorem getOrStart_cases {pool : PoolName} {options : PoolOptions}
    (hget : hub.getOrStart pool options = .ok (hub', id)) :
    id.pool = pool ∧ hub' = hub ∨ hub.shutDown = false ∧ hub.get? pool = none ∧
      ∃ hub₁, hub.start pool options = .ok (hub₁, id) ∧
        hub' = { hub₁ with listed := hub₁.listed.put pool id.number } := by
  unfold getOrStart at hget
  cases hdown : hub.shutDown with
  | true => simp [hdown] at hget
  | false =>
    simp only [hdown, Bool.false_eq_true, if_false] at hget
    cases hlisted : hub.get? pool with
    | some other =>
      rw [hlisted] at hget
      obtain ⟨hhub, rfl⟩ := Prod.mk.inj (Except.ok.inj hget)
      refine Or.inl ⟨?_, hhub.symm⟩
      unfold get? at hlisted
      split at hlisted
      · split at hlisted
        · cases hlisted
        · rw [← Option.some.inj hlisted]
      · cases hlisted
    | none =>
      rw [hlisted] at hget
      cases hstart : hub.start pool options with
      | error e =>
        rw [hstart] at hget
        cases hget
      | ok result =>
        obtain ⟨hub₁, other⟩ := result
        rw [hstart] at hget
        obtain ⟨hhub, rfl⟩ := Prod.mk.inj (Except.ok.inj hget)
        exact Or.inr ⟨rfl, rfl, hub₁, rfl, hhub.symm⟩

theorem Sound.getOrStart {pool : PoolName} {options : PoolOptions} (h : hub.Sound)
    (hget : hub.getOrStart pool options = .ok (hub', id)) :
    hub'.Sound ∧ id.pool = pool ∧ Obtained hub id hub' := by
  rcases getOrStart_cases hget with ⟨hpool, rfl⟩ | ⟨hdown, hnone, hub₁, hstart, rfl⟩
  · exact ⟨h, hpool, .listed rfl⟩
  · obtain ⟨hclosed, hdesks, hexchange, hanswers, hasked⟩ := h.started hstart
    have hpool : id.pool = pool := by
      obtain ⟨-, -, -, rfl, -⟩ := start_eq_ok hstart
      rfl
    refine ⟨h.start (fun other hother => ?_) hstart, hpool, .started ?_⟩
    · exact h.desk?_of_get?_eq_none hdown hnone hother
    · exact ⟨hclosed, hdesks, hexchange, hanswers, hasked⟩

/-! ### Working -/

/-- What carrying out effects leaves alone. -/
theorem foldl_carryOut_eq {α : Type} (f : Hub → α) {pool : PoolName} {query : Option Nat}
    (hf : ∀ (hub : Hub) (effect : Effect), f (carryOut pool query hub effect) = f hub)
    (effects : List Effect) (hub : Hub) : f (effects.foldl (carryOut pool query) hub) = f hub := by
  induction effects generalizing hub with
  | nil => rfl
  | cons effect rest ih => rw [List.foldl_cons, ih, hf]

theorem carryOut_delivery (pool : PoolName) (query : Option Nat) (hub : Hub) (requester : String)
    (r : Response) : carryOut pool query hub (.delivery requester r true) =
      { hub with exchange := hub.exchange.post ⟨pool, requester⟩ r } := by
  rw [carryOut.eq_def, Exchange.post]
  dsimp only
  cases hub.exchange.deliver ⟨pool, requester⟩ r <;> rfl

theorem carryOut_same (pool : PoolName) (query : Option Nat) (hub : Hub) (effect : Effect) :
    (carryOut pool query hub effect).stations = hub.stations ∧
      (carryOut pool query hub effect).asked = hub.asked ∧
      (carryOut pool query hub effect).listed = hub.listed ∧
      (carryOut pool query hub effect).shutDown = hub.shutDown := by
  rcases effect with ⟨requester, r, _ | _⟩ | _ | _ | _
  · exact ⟨rfl, rfl, rfl, rfl⟩
  · rw [carryOut_delivery]
    exact ⟨rfl, rfl, rfl, rfl⟩
  · exact ⟨rfl, rfl, rfl, rfl⟩
  · exact ⟨rfl, rfl, rfl, rfl⟩
  · cases query <;> exact ⟨rfl, rfl, rfl, rfl⟩

theorem exchange_foldl_carryOut (pool : PoolName) (query : Option Nat) (effects : List Effect)
    (hub : Hub) :
    (effects.foldl (carryOut pool query) hub).exchange = hub.exchange.carry pool effects := by
  induction effects generalizing hub with
  | nil => rfl
  | cons effect rest ih =>
    rw [List.foldl_cons, ih]
    rcases effect with ⟨requester, r, _ | _⟩ | _ | _ | _
    case delivery.true =>
      rw [carryOut_delivery]
      rfl
    case answer a => cases query <;> rfl
    all_goals rfl

theorem answers_foldl_carryOut (pool : PoolName) (query : Option Nat) (effects : List Effect)
    (hub : Hub) (q : Nat) :
    ((effects.foldl (carryOut pool query) hub).answers.get? q).isSome ↔
      (hub.answers.get? q).isSome ∨ query = some q ∧ ∃ a, .answer a ∈ effects := by
  induction effects generalizing hub with
  | nil => simp
  | cons effect rest ih =>
    rw [List.foldl_cons, ih]
    rcases effect with ⟨requester, r, _ | _⟩ | _ | _ | a
    case delivery.true =>
      rw [carryOut_delivery]
      simp
    case answer =>
      cases query with
      | none => simp [carryOut]
      | some number =>
        by_cases hq : number = q
        · subst hq
          simp [carryOut, Assoc.get?_put]
        · simp [carryOut, Assoc.get?_put, hq]
    all_goals simp [carryOut, Hub.report]

/-- What a station does for its hub is what it takes, carried out. -/
theorem work?_eq_some (hwork : hub.work? id = some hub') :
    ∃ s turn reach faulty held timed, hub.station? id = some s ∧
      s.take? hub.clock.still reach faulty held = some turn ∧
      hub' = turn.effects.foldl (carryOut id.pool turn.query)
        ({ hub with timed }.setStation id turn.station) := by
  unfold work? at hwork
  obtain ⟨s, hs, hwork⟩ := Option.bind_eq_some_iff.mp hwork
  obtain ⟨turn, hturn, hwork⟩ := Option.bind_eq_some_iff.mp hwork
  exact ⟨s, turn, _, _, _, _, hs, hturn, (Option.some.inj hwork).symm⟩

theorem Sound.worked (h : hub.Sound) (hwork : hub.work? id = some hub') :
    Worked hub id hub' := by
  obtain ⟨s, turn, reach, faulty, held, timed, hs, htake, rfl⟩ := work?_eq_some hwork
  obtain ⟨hopen, htook⟩ := Station.took_of_take? (h.resting id s hs) htake
  have hc := h.resting id s hs hopen
  have hdesk : hub.desk? id = some ⟨s.coordinator.still, s.inbox⟩ := by
    rw [desk?, hs]
    exact Station.desk?_eq_some hopen
  have hsame := carryOut_same id.pool turn.query
  have hstations := foldl_carryOut_eq Hub.stations (fun hub e => (hsame hub e).1) turn.effects
    ({ hub with timed }.setStation id turn.station)
  have hasked := foldl_carryOut_eq Hub.asked (fun hub e => (hsame hub e).2.1) turn.effects
    ({ hub with timed }.setStation id turn.station)
  have hexchange := exchange_foldl_carryOut id.pool turn.query turn.effects
    ({ hub with timed }.setStation id turn.station)
  have hanswers := answers_foldl_carryOut id.pool turn.query turn.effects
    ({ hub with timed }.setStation id turn.station)
  have hdesks (other : StationId) : (turn.effects.foldl (carryOut id.pool turn.query)
      ({ hub with timed }.setStation id turn.station)).desk? other =
        if id = other then turn.station.desk? else hub.desk? other :=
    (desk?_of_stations hstations other).trans (desk?_setStation _ id other turn.station)
  cases htook with
  | halted hclosed heffects hquery =>
    rw [Station.desk?, hclosed] at hdesks
    refine Worked.halted hdesk hdesks (hexchange.trans ?_) ?_ hasked <;> rw [heffects] <;> rfl
  | handled htakes hstep hopen' hcoordinator hinbox =>
    rw [Station.desk?_eq_some hopen', hcoordinator, hinbox] at hdesks
    exact Worked.handled hc hdesk htakes hstep hdesks hexchange hanswers hasked
  | crashed n htakes hstep hclosed heffects hquery =>
    rw [Station.desk?, hclosed] at hdesks
    refine Worked.crashed n hc hdesk htakes hstep hdesks (heffects ▸ hexchange) ?_ hasked
    have hanswer (hub : Hub) (e : Effect) :
        (carryOut id.pool turn.query hub e).answers = hub.answers := by
      rw [hquery]
      rcases e with ⟨requester, r, _ | _⟩ | _ | _ | _
      case delivery.true =>
        rw [carryOut_delivery]
      all_goals rfl
    exact foldl_carryOut_eq Hub.answers hanswer turn.effects _

theorem Sound.work (h : hub.Sound) (hwork : hub.work? id = some hub') : hub'.Sound := by
  obtain ⟨s, turn, reach, faulty, held, timed, hs, htake, rfl⟩ := work?_eq_some hwork
  obtain ⟨hopen, htook⟩ := Station.took_of_take? (h.resting id s hs) htake
  have hquery := h.inbox_query_lt hs hopen
  have hplaced : ({ hub with timed }.setStation id turn.station).Sound := by
    have htimed : ({ hub with timed } : Hub).Sound :=
      h.of_same rfl rfl rfl rfl h.exchange h.answer_lt
    refine htimed.setStation hs (fun _ => hopen) (fun hstill => ?_) fun hstill e he q hq => ?_
    · cases htook with
      | handled htakes hstep hopen' hcoordinator hinbox =>
        have hc := h.resting id s hs hopen
        rw [hcoordinator]
        exact ⟨hstep.sound hc.toSound, hstep.settled⟩
      | halted hclosed | crashed n htakes hstep hclosed =>
        rw [hclosed] at hstill
        cases hstill
    · cases htook with
      | handled htakes hstep hopen' hcoordinator hinbox =>
        rw [hinbox] at he
        exact hquery e (htakes.mem_of_rest he) q hq
      | halted hclosed | crashed n htakes hstep hclosed =>
        rw [hclosed] at hstill
        cases hstill
  have hsame := carryOut_same id.pool turn.query
  refine hplaced.of_same (foldl_carryOut_eq _ (fun hub e => (hsame hub e).1) _ _)
    (foldl_carryOut_eq _ (fun hub e => (hsame hub e).2.2.1) _ _)
    (foldl_carryOut_eq _ (fun hub e => (hsame hub e).2.2.2) _ _)
    (foldl_carryOut_eq _ (fun hub e => (hsame hub e).2.1) _ _) ?_ fun q hq => ?_
  · rw [exchange_foldl_carryOut]
    exact (h.exchange.carry id.pool turn.effects).sound
  · rcases (answers_foldl_carryOut _ _ _ _ q).mp hq with hold | ⟨hnew, -⟩
    · exact h.answer_lt q hold
    · cases htook with
      | handled htakes hstep hopen' hcoordinator hinbox =>
        rw [hnew] at htakes
        obtain ⟨e, hinbox, heq⟩ := htakes.inbox_of_query
        exact hquery e (hinbox ▸ List.mem_cons_self) q heq
      | halted hclosed heffects hnone | crashed n htakes hstep hclosed heffects hnone =>
        rw [hnone] at hnew
        cases hnew

theorem Worked.kept {m : MailboxId} (hworked : Worked hub id hub') (h : hub.Sound) :
    Exchange.Kept m hub.exchange hub'.exchange := by
  cases hworked with
  | halted hdesk hdesks hexchange hanswers hasked =>
    rw [hexchange]
    exact .refl m _
  | handled hc hdesk htakes hstep hdesks hexchange hanswers hasked =>
    rw [hexchange]
    exact (h.exchange.carry _ _).kept
  | crashed n hc hdesk htakes hstep hdesks hexchange hanswers hasked =>
    rw [hexchange]
    exact (h.exchange.carry _ _).kept

end LeasePool.Hub
