import LeasePool.Proofs.Operations

/-!
What becomes of a pool whose stations are started through the registry only. The first call that
succeeds starts the only station that the pool ever has, with the options of that call. It handles
its messages in the order in which they were accepted. After the registry was shut down it halts in
its next turn, and does nothing more.
-/
namespace LeasePool

open Coordinator (Input Occasion)

/-! ### The life of a coordinator -/

namespace Coordinator

/-- Something that changes a coordinator. -/
inductive Deed where
  | handled (o : Occasion)
  | fired (lease : Nat)

namespace Deed

def message? : Deed → Option Message
  | .handled o => o.input.message?
  | .fired _ => none

end Deed

/-- What a deed makes of a coordinator, and its effects. -/
def act (c : Coordinator) : Deed → Coordinator × List Effect
  | .handled o => c.step o.clock o.reach o.input
  | .fired lease => (c.fireWatcher lease, [])

/-- A coordinator that was created with some options, after some deeds and with the events that it
has reported. -/
inductive Lived (p : PoolName) (options : PoolOptions) :
    List Deed → Coordinator → List Event → Prop where
  | created {now : Readings} {c : Coordinator} {e : Event}
      (hcreate : create p options now = .ok (c, e)) : Lived p options [] c [e]
  | acted {deeds : List Deed} {c : Coordinator} {events : List Event}
      (h : Lived p options deeds c events) (d : Deed) :
      Lived p options (deeds ++ [d]) (c.act d).1 (events ++ (c.act d).2.filterMap Effect.event?)

end Coordinator

namespace Hub

open Coordinator (Deed Lived)

/-! ### What a record tells about a pool -/

namespace Operation

/-- The message that an operation sends. -/
def message? : Operation → Option Message
  | .signal _ _ m | .send _ m | .ask _ m => some m
  | _ => none

/-- Whether an operation leaves it to the registry to start and stop stations, and makes none crash:
it spoils no requester, and asks for no more slots than can be held. -/
def isRegular : Operation → Bool
  | .start _ _ | .stop _ | .spoil _ => false
  | .signal _ _ m | .send _ m | .ask _ m => !m.overflows
  | _ => true

theorem overflows_of_message? {o : Operation} {m : Message} (ho : o.isRegular = true)
    (hm : o.message? = some m) : m.overflows = false := by
  cases o with
  | signal _ _ m' | send _ m' | ask _ m' =>
    obtain rfl := Option.some.inj hm
    exact Bool.not_eq_true' _ ▸ ho
  | _ => cases hm

end Operation

namespace Act

/-- The options of a call that was given a station of a pool. -/
def options? (p : PoolName) (a : Act) : Option PoolOptions :=
  match a.operation, a.outcome with
  | .getOrStart pool options, .had _ | .signal pool options _, .sent _ _ =>
    if pool = p then some options else none
  | _, _ => none

/-- The station that a call was given. -/
def given? (a : Act) : Option StationId :=
  match a.operation, a.outcome with
  | .get _, .found id => id
  | .getOrStart _ _, .had id | .signal _ _ _, .sent id _ => some id
  | _, _ => none

/-- The message, if a station accepted it. -/
def taken? (id other : StationId) (m : Message) : Posting Unit → Option Message
  | .accepted () => if other = id then some m else none
  | .full | .refused => none

/-- The message that a station accepted. -/
def accepted? (id : StationId) (a : Act) : Option Message :=
  match a.operation, a.outcome with
  | .signal _ _ m, .sent other posting | .send _ m, .sent other posting
  | .ask _ m, .sent other posting => taken? id other m posting
  | _, _ => none

theorem taken?_eq_some {id other : StationId} {m m' : Message} {posting : Posting Unit}
    (htaken : taken? id other m posting = some m') : m' = m := by
  cases posting with
  | accepted =>
    rw [taken?] at htaken
    split at htaken
    · exact (Option.some.inj htaken).symm
    · cases htaken
  | full | refused => cases htaken

/-- What a station accepted was sent to it. -/
theorem message?_of_accepted? {id : StationId} {a : Act} {m : Message}
    (haccepted : a.accepted? id = some m) : a.operation.message? = some m := by
  unfold accepted? at haccepted
  split at haccepted
  case h_4 => cases haccepted
  all_goals
    rename_i hoperation houtcome
    rw [hoperation, Operation.message?, taken?_eq_some haccepted]

/-- What a station did. -/
def deed? (id : StationId) (a : Act) : Option Deed :=
  match a.operation, a.outcome with
  | .work other, .worked (some o) _ => if other = id then some (.handled o) else none
  | .expire other lease, .fired => if other = id then some (.fired lease) else none
  | _, _ => none

end Act

/-- The options of the first call that was given a station of a pool. -/
def first? (p : PoolName) (acts : List Act) : Option PoolOptions :=
  acts.findSome? (Act.options? p)

/-- The messages that a station accepted, in order. -/
def accepted (id : StationId) (acts : List Act) : List Message := acts.filterMap (Act.accepted? id)

/-- What a station did, in order. -/
def deeds (id : StationId) (acts : List Act) : List Deed := acts.filterMap (Act.deed? id)

section Records

variable (p : PoolName) (id : StationId) (acts : List Act) (a : Act)

theorem first?_concat : first? p (acts ++ [a]) = (first? p acts).or (a.options? p) := by
  rw [first?, List.findSome?_append, List.findSome?_singleton, first?]

theorem accepted_concat :
    accepted id (acts ++ [a]) = accepted id acts ++ (a.accepted? id).toList := by
  rw [accepted, List.filterMap_append, accepted]
  cases ha : a.accepted? id <;> simp [ha]

theorem deeds_concat : deeds id (acts ++ [a]) = deeds id acts ++ (a.deed? id).toList := by
  rw [deeds, List.filterMap_append, deeds]
  cases ha : a.deed? id <;> simp [ha]

end Records

/-! ### The stations of a pool -/

/-- A pool has no station but the first, if it has that. -/
def Sole (p : PoolName) (hub : Hub) (s : Option Station) : Prop :=
  ∀ n, hub.station? ⟨p, n⟩ = if n = 0 then s else none

variable {hub hub' : Hub} {p : PoolName} {id : StationId} {s t : Station}

namespace Sole

theorem zero {s : Option Station} (h : Sole p hub s) : hub.station? ⟨p, 0⟩ = s :=
  (h 0).trans (if_pos rfl)

theorem isClosed (h : Sole p hub (some s)) : hub.isClosed ⟨p, 0⟩ = s.isClosed := by
  rw [Hub.isClosed, h.zero]
  rfl

/-- Only the first station can be found. -/
theorem eq {s : Option Station} (h : Sole p hub s) (hpool : id.pool = p)
    (ht : hub.station? id = some t) : id = ⟨p, 0⟩ ∧ s = some t := by
  subst hpool
  have hs := h id.number
  rw [show hub.station? ⟨id.pool, id.number⟩ = some t from ht] at hs
  split at hs
  case isTrue hzero => exact ⟨by rw [← hzero], hs.symm⟩
  case isFalse => cases hs

theorem setStation {s : Option Station} (h : Sole p hub s) (t : Station) :
    Sole p (hub.setStation ⟨p, 0⟩ t) (some t) := by
  intro n
  rw [station?_setStation]
  by_cases hn : n = 0
  · rw [if_pos hn, hn, if_pos rfl]
  · have hne : (⟨p, 0⟩ : StationId) ≠ ⟨p, n⟩ := fun heq =>
      hn (congrArg StationId.number heq).symm
    rw [if_neg hn, if_neg hne, h n, if_neg hn]

theorem nextId_eq (h : Sole p hub none) : hub.nextId p = ⟨p, 0⟩ := by
  have hzero : hub.stations.keys.countP (fun other => other.pool = p) = 0 := by
    refine List.countP_eq_zero.mpr fun other hkey hpool => ?_
    obtain rfl : other.pool = p := by simpa using hpool
    exact (Assoc.get?_eq_none_iff other hub.stations).mp
      ((h other.number).trans (ite_self none)) hkey
  rw [nextId, hzero]

/-- The numbers of the queries do not matter. -/
theorem of_anonymous {s : Option Station} (h : Sole p hub s)
    (hsame : ∀ n, (hub'.station? ⟨p, n⟩).map Station.anonymous =
      (hub.station? ⟨p, n⟩).map Station.anonymous) :
    ∃ s', s'.map Station.anonymous = s.map Station.anonymous ∧ Sole p hub' s' := by
  refine ⟨hub'.station? ⟨p, 0⟩, (hsame 0).trans (by rw [h.zero]), fun n => ?_⟩
  by_cases hn : n = 0
  · rw [hn, if_pos rfl]
  · have hnone := hsame n
    rw [h n, if_neg hn] at hnone
    rw [if_neg hn, Option.map_eq_none_iff.mp hnone]

end Sole

/-! ### Turns -/

theorem events_foldl_carryOut (query : Option Nat) (effects : List Effect) (hub : Hub) :
    (effects.foldl (carryOut p query) hub).events p =
      hub.events p ++ effects.filterMap Effect.event? := by
  induction effects generalizing hub with
  | nil => exact (List.append_nil _).symm
  | cons effect rest ih =>
    rw [List.foldl_cons, ih]
    rcases effect with ⟨requester, r, _ | _⟩ | e | n | a
    case event =>
      have hreport : (hub.carryOut p query (.event e)).events p = hub.events p ++ [e] :=
        (events_report hub p p e).trans (if_pos rfl)
      rw [hreport, List.append_assoc]
      rfl
    case delivery.true =>
      rw [carryOut_delivery]
      rfl
    case answer => cases query <;> rfl
    all_goals rfl

/-- What a turn leaves behind. -/
theorem of_work? {turn : Turn} {timed : List (StationId × Nat)}
    (hhub : hub' = turn.effects.foldl (carryOut p turn.query)
      ({ hub with timed }.setStation ⟨p, 0⟩ turn.station)) :
    (∀ other, hub'.station? other = (hub.setStation ⟨p, 0⟩ turn.station).station? other) ∧
      hub'.listed = hub.listed ∧ hub'.shutDown = hub.shutDown ∧
      hub'.events p = hub.events p ++ turn.effects.filterMap Effect.event? := by
  subst hhub
  have hsame := carryOut_same p turn.query
  refine ⟨fun other => ?_, foldl_carryOut_eq Hub.listed (fun hub e => (hsame hub e).2.2.1) _ _,
    foldl_carryOut_eq Hub.shutDown (fun hub e => (hsame hub e).2.2.2) _ _,
    events_foldl_carryOut turn.query turn.effects _⟩
  have hstations := foldl_carryOut_eq Hub.stations (fun hub e => (hsame hub e).1) turn.effects
    ({ hub with timed }.setStation ⟨p, 0⟩ turn.station)
  rw [station?, hstations]
  rfl

/-! ### Chapters -/

/-- A pool whose first station works as long as the registry is open. -/
structure Working (p : PoolName) (hub : Hub) (options : PoolOptions) (s : Station)
    (accepted : List Message) (deeds : List Deed) : Prop where
  sole : Sole p hub (some s)
  listed_eq : hub.listed.get? p = if hub.shutDown then none else some 0
  phase_eq : s.phase = .running
  stopping_eq : s.stopping = hub.shutDown
  capacity_eq : s.capacity = max 1 options.capacity
  /-- What it has handled, and then what waits. -/
  messages_eq : deeds.filterMap Deed.message? ++ s.messages = accepted
  lived : Lived p options deeds s.coordinator (hub.events p)

/-- A pool whose first station has halted after the registry was shut down. -/
structure Stopped (p : PoolName) (hub : Hub) (options : PoolOptions) (s : Station)
    (accepted : List Message) (deeds : List Deed) : Prop where
  sole : Sole p hub (some s)
  shutDown_eq : hub.shutDown = true
  listed_eq : hub.listed.get? p = none
  phase_eq : s.phase = .halted
  messages_prefix : deeds.filterMap Deed.message? <+: accepted
  lived : ∃ c reported, Lived p options deeds c reported ∧ s.coordinator = c.cancelWatchers ∧
    hub.events p = reported ++ [.stopped]

/-- What has become of a pool: nothing yet, or it has the one station that the first call started,
which works or has stopped. -/
inductive Chapter (p : PoolName) (hub : Hub) :
    Option PoolOptions → List Message → List Deed → Prop where
  | unstarted (hsole : Sole p hub none) (hlisted : hub.listed.get? p = none)
      (hevents : hub.events p = []) : Chapter p hub none [] []
  | working {options : PoolOptions} {s : Station} {accepted : List Message} {deeds : List Deed}
      (h : Working p hub options s accepted deeds) : Chapter p hub (some options) accepted deeds
  | stopped {options : PoolOptions} {s : Station} {accepted : List Message} {deeds : List Deed}
      (h : Stopped p hub options s accepted deeds) : Chapter p hub (some options) accepted deeds

variable {first : Option PoolOptions} {options : PoolOptions} {accepted : List Message}
  {deeds : List Deed}

theorem Working.isClosed (h : Working p hub options s accepted deeds) :
    hub.isClosed ⟨p, 0⟩ = false :=
  h.sole.isClosed.trans (congrArg (· != Phase.running) h.phase_eq)

theorem Stopped.isClosed (h : Stopped p hub options s accepted deeds) :
    hub.isClosed ⟨p, 0⟩ = true :=
  h.sole.isClosed.trans (congrArg (· != Phase.running) h.phase_eq)

/-- What the registry starts works. -/
theorem working_of_create {now : Readings} {c : Coordinator} {e : Event} (hsole : Sole p hub none)
    (hdown : hub.shutDown = false) (hevents : hub.events p = [])
    (hcreate : Coordinator.create p options now = .ok (c, e)) :
    let hub₁ := (hub.setStation ⟨p, 0⟩ (.employ c options.capacity)).report p e
    Working p { hub₁ with listed := hub₁.listed.put p 0 } options (.employ c options.capacity)
      [] [] := by
  intro hub₁
  have hreported : hub₁.events p = [e] := by
    rw [events_report, if_pos rfl]
    exact congrArg (· ++ [e]) hevents
  refine ⟨hsole.setStation _, ?_, rfl, hdown.symm, rfl, rfl, hreported.symm ▸ .created hcreate⟩
  exact (Assoc.get?_put p p 0 hub.listed).trans (by simp [hub₁, report, setStation, hdown])

/-- What a station handles next does not make it crash if nothing that it accepted does. -/
theorem Working.overflows_next {input : Input} {query : Option Nat}
    (h : Working p hub options s accepted deeds) (hmodest : ∀ m ∈ accepted, m.overflows = false)
    (hnext : s.next? = some (input, query)) : input.overflows = false := by
  cases input with
  | message m =>
    refine hmodest m ?_
    rw [← h.messages_eq, Station.messages_eq_of_next? hnext]
    exact List.mem_append_right _ List.mem_cons_self
  | expiry e => rfl

/-- The turns of a station that works: it halts if the registry has been shut down, and else handles
its next input, for the registry keeps a handle to it. -/
theorem Working.turn_cases {turn : Turn} (h : Working p hub options s accepted deeds)
    (hfaulty : hub.faulty = []) (hmodest : ∀ m ∈ accepted, m.overflows = false)
    (hturn : hub.turn? ⟨p, 0⟩ = some turn) :
    hub.shutDown = true ∧ turn = s.halt ∧ hub.occasion? ⟨p, 0⟩ = none ∨
      hub.shutDown = false ∧ ∃ input query, s.next? = some (input, query) ∧
        hub.occasion? ⟨p, 0⟩ = some ⟨hub.clock.still, hub.reach p, input⟩ ∧
        turn = ⟨{ s.rest with
          coordinator := (s.coordinator.step hub.clock.still (hub.reach p) input).1 },
          (s.coordinator.step hub.clock.still (hub.reach p) input).2, query⟩ := by
  have hopen : s.isClosed = false := congrArg (· != Phase.running) h.phase_eq
  rw [turn?, h.sole.zero, Option.bind_some, Station.take?_eq, hopen, h.stopping_eq] at hturn
  rw [occasion?, h.sole.zero, Option.bind_some, Station.input?, h.stopping_eq]
  cases hdown : hub.shutDown with
  | true =>
    simp only [hdown, Bool.false_eq_true, if_false, if_true, Option.some.injEq] at hturn
    exact Or.inl ⟨rfl, hturn.symm, rfl⟩
  | false =>
    have hheld : hub.isHeld ⟨p, 0⟩ = true := by
      rw [isHeld, h.listed_eq, hdown]
      simp
    refine Or.inr ⟨rfl, ?_⟩
    simp only [hdown, Bool.false_eq_true, if_false] at hturn
    cases hnext : s.next? with
    | none => simp [hnext, hheld] at hturn
    | some next =>
      obtain ⟨input, query⟩ := next
      simp only [hnext, Option.some.injEq] at hturn
      rw [Station.handle_of_reliable (fun r => by rw [hfaulty]; rfl)
        (h.overflows_next hmodest hnext)] at hturn
      refine ⟨input, query, rfl, rfl, ?_⟩
      rw [← hturn, Station.rest_coordinator]

namespace Chapter

/-- Whatever station of a pool takes anything is its first station at work. -/
theorem exists_working (h : Chapter p hub first accepted deeds) (hpool : id.pool = p)
    (hs : hub.station? id = some s) (hopen : s.isClosed = false) :
    id = ⟨p, 0⟩ ∧ ∃ options, first = some options ∧ Working p hub options s accepted deeds := by
  cases h with
  | unstarted hsole hlisted hevents => cases (hsole.eq hpool hs).2
  | working h =>
    obtain ⟨hid, hsame⟩ := h.sole.eq hpool hs
    obtain rfl := Option.some.inj hsame
    exact ⟨hid, _, rfl, h⟩
  | stopped h =>
    obtain ⟨-, hsame⟩ := h.sole.eq hpool hs
    obtain rfl := Option.some.inj hsame
    rw [Station.isClosed, h.phase_eq] at hopen
    cases hopen

/-- A pool that was started has a station at work as long as the registry is open. -/
theorem exists_working_of_open (h : Chapter p hub (some options) accepted deeds)
    (hdown : hub.shutDown = false) : ∃ s, Working p hub options s accepted deeds := by
  cases h with
  | working h => exact ⟨_, h⟩
  | stopped h =>
    rw [h.shutDown_eq] at hdown
    cases hdown

/-- Only the stations of the pool, its entry in the registry and its events matter. -/
theorem of_same (h : Chapter p hub first accepted deeds)
    (hstations : ∀ n, (hub'.station? ⟨p, n⟩).map Station.anonymous =
      (hub.station? ⟨p, n⟩).map Station.anonymous)
    (hlisted : hub'.listed.get? p = hub.listed.get? p) (hdown : hub'.shutDown = hub.shutDown)
    (hevents : hub'.events p = hub.events p) : Chapter p hub' first accepted deeds := by
  cases h with
  | unstarted hsole hunlisted hnone =>
    obtain ⟨s', hsame, hsole'⟩ := hsole.of_anonymous hstations
    rw [Option.map_none, Option.map_eq_none_iff] at hsame
    exact .unstarted (hsame ▸ hsole') (hlisted.trans hunlisted) (hevents.trans hnone)
  | working h =>
    obtain ⟨s', hsame, hsole'⟩ := h.sole.of_anonymous hstations
    obtain ⟨s', rfl, hanonymous⟩ := Option.map_eq_some_iff.mp hsame
    refine .working ⟨hsole', ?_, (congrArg Station.phase hanonymous).trans h.phase_eq, ?_,
      (congrArg Station.capacity hanonymous).trans h.capacity_eq, ?_, ?_⟩
    · rw [hlisted, hdown, h.listed_eq]
    · rw [hdown]
      exact (congrArg Station.stopping hanonymous).trans h.stopping_eq
    · rw [← s'.anonymous_messages, hanonymous, Station.anonymous_messages]
      exact h.messages_eq
    · rw [hevents]
      exact (congrArg Station.coordinator hanonymous).symm ▸ h.lived
  | stopped h =>
    obtain ⟨s', hsame, hsole'⟩ := h.sole.of_anonymous hstations
    obtain ⟨s', rfl, hanonymous⟩ := Option.map_eq_some_iff.mp hsame
    obtain ⟨c, reported, hlived, hcoordinator, hreported⟩ := h.lived
    exact .stopped ⟨hsole', hdown.trans h.shutDown_eq, hlisted.trans h.listed_eq,
      (congrArg Station.phase hanonymous).trans h.phase_eq, h.messages_prefix, c, reported, hlived,
      (congrArg Station.coordinator hanonymous).trans hcoordinator, hevents.trans hreported⟩

/-- What the pool does not notice does not matter. -/
theorem of_sameFor (h : Chapter p hub first accepted deeds) (hsame : SameFor p hub hub') :
    Chapter p hub' first accepted deeds := by
  refine h.of_same (fun n => (hsame.station_eq n).symm) ?_ hsame.shutDown_eq.symm
    hsame.events_eq.symm
  rw [← get?_entries, ← get?_entries, hsame.entries_eq]

/-! ### Calls of the registry -/

theorem get?_of_none (h : Chapter p hub none accepted deeds) : hub.get? p = none := by
  cases h with
  | unstarted hsole hlisted hevents => rw [get?, hlisted]

/-- As long as the registry is open, it has the station that was started first. -/
theorem get?_of_some (h : Chapter p hub (some options) accepted deeds)
    (hdown : hub.shutDown = false) : hub.get? p = some ⟨p, 0⟩ := by
  obtain ⟨s, hworking⟩ := h.exists_working_of_open hdown
  rw [get?, hworking.listed_eq, hdown]
  simp only [Bool.false_eq_true, if_false, hworking.isClosed]

/-- A call of the registry gives out the first station, which it may have to start. -/
theorem getOrStart (h : Chapter p hub first accepted deeds)
    (hget : hub.getOrStart p options = .ok (hub', id)) :
    id = ⟨p, 0⟩ ∧ Chapter p hub' (first.or (some options)) accepted deeds := by
  have hdown : hub.shutDown = false := by
    cases hdown : hub.shutDown with
    | false => rfl
    | true => simp [Hub.getOrStart, hdown] at hget
  unfold Hub.getOrStart at hget
  simp only [hdown, Bool.false_eq_true, if_false] at hget
  cases first with
  | some first =>
    rw [h.get?_of_some hdown] at hget
    obtain ⟨rfl, rfl⟩ := Prod.mk.inj (Except.ok.inj hget)
    exact ⟨rfl, h⟩
  | none =>
    rw [h.get?_of_none] at hget
    cases hstart : hub.start p options with
    | error e =>
      rw [hstart] at hget
      cases hget
    | ok result =>
      obtain ⟨hub₁, id₁⟩ := result
      rw [hstart] at hget
      obtain ⟨rfl, rfl⟩ := Prod.mk.inj (Except.ok.inj hget)
      obtain ⟨c, e, hcreate, hid, rfl⟩ := start_eq_ok hstart
      cases h with
      | unstarted hsole hlisted hevents =>
        rw [hsole.nextId_eq] at hid
        subst hid
        exact ⟨rfl, .working (working_of_create hsole hdown hevents hcreate)⟩

/-! ### Stations -/

/-- A message that is accepted waits for the first station. -/
theorem post {e : Envelope} (h : Chapter p hub first accepted deeds) (hpool : id.pool = p)
    (hpost : hub.post id e = .accepted hub') :
    id = ⟨p, 0⟩ ∧ Chapter p hub' first (accepted ++ [e.message]) deeds := by
  obtain ⟨s, hs, hopen, rfl⟩ := posted_of_post hpost
  obtain ⟨rfl, options, rfl, hworking⟩ := h.exists_working hpool hs hopen
  refine ⟨rfl, .working { hworking with sole := hworking.sole.setStation _, messages_eq := ?_ }⟩
  rw [Station.messages, List.map_append, ← List.append_assoc]
  exact congrArg (· ++ [e.message]) hworking.messages_eq

theorem fire? {lease : Nat} (h : Chapter p hub first accepted deeds) (hpool : id.pool = p)
    (hfire : hub.fire? id lease = some hub') :
    id = ⟨p, 0⟩ ∧ Chapter p hub' first accepted (deeds ++ [.fired lease]) := by
  obtain ⟨s, w, hs, hopen, rfl⟩ := exists_of_fire? hfire
  obtain ⟨rfl, options, rfl, hworking⟩ := h.exists_working hpool hs hopen
  have hlived := hworking.lived.acted (.fired lease)
  rw [Coordinator.act, List.filterMap_nil, List.append_nil] at hlived
  refine ⟨rfl, .working { hworking with
    sole := hworking.sole.setStation _
    messages_eq := ?_
    lived := hlived }⟩
  rw [List.filterMap_append]
  exact (congrArg (· ++ s.messages) (List.append_nil _)).trans hworking.messages_eq

/-! ### Work -/

/-- A station that works handles the next thing, or halts if the registry has been shut down. -/
theorem work (h : Chapter p hub first accepted deeds) (hfaulty : hub.faulty = [])
    (hmodest : ∀ m ∈ accepted, m.overflows = false) (hpool : id.pool = p)
    (hwork : hub.work? id = some hub') :
    id = ⟨p, 0⟩ ∧ Chapter p hub' first accepted
      (deeds ++ ((hub.occasion? id).map Deed.handled).toList) := by
  obtain ⟨s, turn, timed, hs, hturn, hhub⟩ := exists_of_work? hwork
  have hopen : s.isClosed = false := by
    rw [turn?, hs, Option.bind_some] at hturn
    exact (Station.acts_of_take? hturn).1
  obtain ⟨rfl, options, rfl, hworking⟩ := h.exists_working hpool hs hopen
  obtain ⟨hplaced, hlisted, hdown', hevents⟩ := of_work? hhub
  have hsole : Sole p hub' (some turn.station) := fun n =>
    (hplaced ⟨p, n⟩).trans (hworking.sole.setStation turn.station n)
  refine ⟨rfl, ?_⟩
  rcases hworking.turn_cases hfaulty hmodest hturn with
    ⟨hdown, rfl, hnone⟩ | ⟨hdown, input, query, hnext, hsome, rfl⟩
  · rw [hnone, Option.map_none, Option.toList_none, List.append_nil]
    refine .stopped ⟨hsole, hdown'.trans hdown, ?_, rfl, ⟨s.messages, hworking.messages_eq⟩,
      s.coordinator, hub.events p, hworking.lived, rfl, hevents⟩
    rw [hlisted, hworking.listed_eq, hdown]
    rfl
  · rw [hsome, Option.map_some, Option.toList_some]
    refine .working ⟨hsole, ?_, s.rest_phase.trans hworking.phase_eq, ?_,
      s.rest_capacity.trans hworking.capacity_eq, ?_, ?_⟩
    · rw [hlisted, hworking.listed_eq, hdown']
    · rw [hdown']
      exact s.rest_stopping.trans hworking.stopping_eq
    · rw [← hworking.messages_eq, Station.messages_eq_of_next? hnext, List.filterMap_append,
        List.append_assoc]
      cases input <;> rfl
    · rw [hevents]
      exact hworking.lived.acted (.handled ⟨hub.clock.still, hub.reach p, input⟩)

/-! ### Shutting down -/

theorem station?_stop (hub : Hub) (id other : StationId) : (hub.stop id).station? other =
    if id = other then (hub.station? other).map fun s => { s with stopping := true }
    else hub.station? other := by
  unfold stop
  by_cases hid : id = other
  · subst hid
    rw [if_pos rfl]
    cases hs : hub.station? id with
    | none => exact hs
    | some s => exact (station?_setStation hub id id _).trans (if_pos rfl)
  · rw [if_neg hid]
    split
    · rw [station?_setStation, if_neg hid]
    · rfl

theorem foldl_stop (ids : Assoc PoolName Nat) (hub : Hub) :
    let hub' := ids.foldl (fun hub (pool, number) => hub.stop ⟨pool, number⟩) hub
    hub'.log = hub.log ∧ ∀ id, hub'.station? id =
      if (id.pool, id.number) ∈ ids then
        (hub.station? id).map fun s => { s with stopping := true }
      else hub.station? id := by
  induction ids generalizing hub with
  | nil => exact ⟨rfl, fun id => by rw [if_neg List.not_mem_nil]; rfl⟩
  | cons entry rest ih =>
    obtain ⟨pool, number⟩ := entry
    obtain ⟨hlog, hstation⟩ := ih (hub.stop ⟨pool, number⟩)
    refine ⟨hlog.trans ?_, fun id => (hstation id).trans ?_⟩
    · unfold stop
      split <;> rfl
    · rw [station?_stop]
      by_cases hid : (⟨pool, number⟩ : StationId) = id
      · subst hid
        rw [if_pos rfl, if_pos List.mem_cons_self, Option.map_map]
        exact ite_self _
      · have hne : (id.pool, id.number) ≠ (pool, number) := by
          rintro heq
          obtain ⟨rfl, rfl⟩ := Prod.mk.inj heq
          exact hid rfl
        simp only [if_neg hid, List.mem_cons, hne, false_or]

/-- Stations at work are told to halt. -/
theorem shutdown (h : Chapter p hub first accepted deeds) :
    Chapter p hub.shutdown first accepted deeds := by
  obtain ⟨hlog, hstation⟩ := foldl_stop hub.listed hub
  have hevents' : hub.shutdown.events p = hub.events p := by
    unfold events Hub.shutdown
    dsimp only
    rw [hlog]
  have hunlisted : hub.shutdown.listed.get? p = none := rfl
  cases h with
  | unstarted hsole hlisted hevents =>
    refine .unstarted (fun n => (hstation ⟨p, n⟩).trans ?_) hunlisted (hevents'.trans hevents)
    rw [hsole n, ite_self, Option.map_none, ite_self]
  | @working options s accepted deeds h =>
    refine .working (s := { s with stopping := true }) { h with
      sole := fun n => (hstation ⟨p, n⟩).trans ?_
      listed_eq := hunlisted
      stopping_eq := rfl
      lived := hevents'.symm ▸ h.lived }
    rw [h.sole n]
    by_cases hn : n = 0
    · subst hn
      rw [if_pos rfl, if_pos rfl]
      cases hdown : hub.shutDown with
      | true =>
        -- it was told before
        have htold : s.stopping = true := h.stopping_eq.trans hdown
        split
        · rfl
        · rw [← htold]
      | false =>
        have hlisted := h.listed_eq
        rw [hdown] at hlisted
        rw [if_pos (Assoc.mem_of_get? hlisted)]
        rfl
    · rw [if_neg hn, if_neg hn, Option.map_none, ite_self]
  | @stopped options s accepted deeds h =>
    refine .stopped { h with
      sole := fun n => (hstation ⟨p, n⟩).trans ?_
      shutDown_eq := rfl
      listed_eq := hunlisted
      lived := hevents'.symm ▸ h.lived }
    have hgone : (p, n) ∉ hub.listed := fun hmem =>
      (Assoc.get?_eq_none_iff p hub.listed).mp h.listed_eq (List.mem_map_of_mem hmem)
    rw [if_neg hgone]
    exact h.sole n

/-! ### Operations -/

/-- One more operation, in which the first station may do something. -/
theorem of_deed {a : Act} {d : Option Deed} (h : Chapter p hub first accepted (deeds ++ d.toList))
    (hoptions : a.options? p = none) (haccepted : a.accepted? ⟨p, 0⟩ = none)
    (hdeed : a.deed? ⟨p, 0⟩ = d) : Chapter p hub (first.or (a.options? p))
      (accepted ++ (a.accepted? ⟨p, 0⟩).toList) (deeds ++ (a.deed? ⟨p, 0⟩).toList) := by
  rw [hoptions, haccepted, hdeed, Option.or_none, Option.toList_none, List.append_nil]
  exact h

/-- One more operation that is not about the pool. -/
theorem of_silent {a : Act} (h : Chapter p hub first accepted deeds)
    (hoptions : a.options? p = none) (haccepted : a.accepted? ⟨p, 0⟩ = none)
    (hdeed : a.deed? ⟨p, 0⟩ = none) : Chapter p hub (first.or (a.options? p))
      (accepted ++ (a.accepted? ⟨p, 0⟩).toList) (deeds ++ (a.deed? ⟨p, 0⟩).toList) := by
  refine of_deed ?_ hoptions haccepted hdeed
  rw [Option.toList_none, List.append_nil]
  exact h

/-- An attempt to send, to whatever station. -/
theorem settle {m : Message} {sent : Posting Hub} (h : Chapter p hub first accepted deeds)
    (haccepted : ∀ hub', sent = .accepted hub' → id.pool = p →
      id = ⟨p, 0⟩ ∧ Chapter p hub' first (accepted ++ [m]) deeds)
    (hforeign : id.pool ≠ p → SameFor p hub (hub.settle sent)) :
    Chapter p (hub.settle sent) first
      (accepted ++ (Act.taken? ⟨p, 0⟩ id m (sent.map fun _ => ())).toList) deeds := by
  by_cases hpool : id.pool = p
  · cases sent with
    | accepted hub' =>
      obtain ⟨rfl, hafter⟩ := haccepted hub' rfl hpool
      rw [Posting.map, Act.taken?, if_pos rfl]
      exact hafter
    | full | refused =>
      rw [Posting.map, Act.taken?, Option.toList_none, List.append_nil]
      exact h
  · have hne : ¬ id = ⟨p, 0⟩ := fun heq => hpool (congrArg StationId.pool heq)
    have hnone : Act.taken? ⟨p, 0⟩ id m (sent.map fun _ => ()) = none := by
      cases sent with
      | accepted hub' => exact if_neg hne
      | full | refused => rfl
    rw [hnone, Option.toList_none, List.append_nil]
    exact h.of_sameFor (hforeign hpool)

theorem send (h : Chapter p hub first accepted deeds) (id : StationId) (m : Message) :
    Chapter p (hub.settle (hub.send id m)) first
      (accepted ++ (Act.taken? ⟨p, 0⟩ id m ((hub.send id m).map fun _ => ())).toList) deeds :=
  h.settle (fun _ hsend hpool => h.post hpool hsend) fun hne => sameFor_settle_send hne m

theorem ask (h : Chapter p hub first accepted deeds) (id : StationId) (m : Message) :
    Chapter p (hub.settle (hub.ask id m)) first
      (accepted ++ (Act.taken? ⟨p, 0⟩ id m ((hub.ask id m).map fun _ => ())).toList) deeds := by
  refine h.settle (fun hub' hask hpool => ?_) fun hne => sameFor_settle_ask hne m
  obtain ⟨hub₁, hpost, rfl⟩ := exists_post_of_ask hask
  obtain ⟨hid, hafter⟩ := h.post hpool hpost
  exact ⟨hid, hafter.of_same (fun _ => rfl) rfl rfl rfl⟩

/-- Whatever is done, the chapter of a pool goes on. -/
theorem operate (h : Chapter p hub first accepted deeds) (hfaulty : hub.faulty = [])
    (hmodest : ∀ m ∈ accepted, m.overflows = false) {o : Operation} (ho : o.isRegular = true) :
    let a : Act := ⟨o, (hub.operate o).2⟩
    Chapter p (hub.operate o).1 (first.or (a.options? p))
      (accepted ++ (a.accepted? ⟨p, 0⟩).toList) (deeds ++ (a.deed? ⟨p, 0⟩).toList) := by
  cases o with
  | get pool => exact h.of_silent rfl rfl rfl
  | getOrStart pool options =>
    unfold Hub.operate
    dsimp only
    cases hget : hub.getOrStart pool options with
    | error e => exact h.of_silent rfl rfl rfl
    | ok result =>
      obtain ⟨hub', id⟩ := result
      by_cases hpool : pool = p
      · subst hpool
        have hsome : Act.options? pool ⟨.getOrStart pool options, .had id⟩ = some options :=
          if_pos rfl
        dsimp only
        rw [hsome]
        exact (List.append_nil accepted).symm ▸ (List.append_nil deeds).symm ▸
          (h.getOrStart hget).2
      · exact (h.of_sameFor (sameFor_getOrStart hpool hget)).of_silent (if_neg hpool) rfl rfl
  | signal pool options m =>
    unfold Hub.operate
    dsimp only
    cases hget : hub.getOrStart pool options with
    | error e => exact h.of_silent rfl rfl rfl
    | ok result =>
      obtain ⟨hub', id⟩ := result
      dsimp only
      have hdeeds : (Act.deed? ⟨p, 0⟩ ⟨.signal pool options m,
          .sent id ((hub'.send id m).map fun _ => ())⟩).toList = [] := rfl
      rw [hdeeds, List.append_nil]
      by_cases hpool : pool = p
      · subst hpool
        have hsome : Act.options? pool ⟨.signal pool options m,
          .sent id ((hub'.send id m).map fun _ => ())⟩ = some options := if_pos rfl
        rw [hsome]
        exact (h.getOrStart hget).2.send id m
      · have hnone : Act.options? p ⟨.signal pool options m,
          .sent id ((hub'.send id m).map fun _ => ())⟩ = none := if_neg hpool
        rw [hnone, Option.or_none]
        exact (h.of_sameFor (sameFor_getOrStart hpool hget)).send id m
  | shutdown => exact h.shutdown.of_silent rfl rfl rfl
  | addHandle _ | dropHandle _ | mail _ | pass _ _ =>
    refine of_silent ?_ rfl rfl rfl
    exact h.of_same (fun _ => rfl) rfl rfl rfl
  | send id m =>
    have hsent := h.send id m
    rw [← Option.or_none (o := first), ← List.append_nil deeds] at hsent
    exact hsent
  | ask id m =>
    have hsent := h.ask id m
    rw [← Option.or_none (o := first), ← List.append_nil deeds] at hsent
    exact hsent
  | work id =>
    have hforeign : id.pool ≠ p → SameFor p hub (hub.operate (.work id)).1 := sameFor_operate rfl
    unfold Hub.operate at hforeign ⊢
    dsimp only at hforeign ⊢
    cases hwork : hub.work? id with
    | none => exact h.of_silent rfl rfl rfl
    | some hub' =>
      rw [hwork] at hforeign
      by_cases hpool : id.pool = p
      · obtain ⟨rfl, hafter⟩ := h.work hfaulty hmodest hpool hwork
        refine hafter.of_deed rfl rfl ?_
        cases hub.occasion? ⟨p, 0⟩ with
        | none => rfl
        | some o => exact if_pos rfl
      · refine (h.of_sameFor (hforeign hpool)).of_silent rfl rfl ?_
        cases hub.occasion? id with
        | none => rfl
        | some o => exact if_neg fun heq => hpool (congrArg StationId.pool heq)
  | expire id lease =>
    have hforeign : id.pool ≠ p → SameFor p hub (hub.operate (.expire id lease)).1 :=
      sameFor_operate rfl
    unfold Hub.operate at hforeign ⊢
    dsimp only at hforeign ⊢
    cases hfire : hub.fire? id lease with
    | none => exact h.of_silent rfl rfl rfl
    | some hub' =>
      rw [hfire] at hforeign
      by_cases hpool : id.pool = p
      · obtain ⟨rfl, hafter⟩ := h.fire? hpool hfire
        exact of_deed (d := some (.fired lease)) hafter rfl rfl (if_pos rfl)
      · refine (h.of_sameFor (hforeign hpool)).of_silent rfl rfl ?_
        exact if_neg fun heq => hpool (congrArg StationId.pool heq)
  | start _ _ | stop _ | spoil _ => cases ho

/-- Only the first station is ever found. -/
theorem eq_of_get? (h : Chapter p hub first accepted deeds) (hget : hub.get? p = some id) :
    id = ⟨p, 0⟩ := by
  have hlisted : hub.listed.get? p = some 0 ∨ hub.listed.get? p = none := by
    cases h with
    | unstarted hsole hlisted hevents => exact Or.inr hlisted
    | working h =>
      rw [h.listed_eq]
      cases hub.shutDown with
      | true => exact Or.inr rfl
      | false => exact Or.inl rfl
    | stopped h => exact Or.inr h.listed_eq
  unfold get? at hget
  rcases hlisted with hzero | hnone
  · rw [hzero] at hget
    dsimp only at hget
    split at hget
    · cases hget
    · exact (Option.some.inj hget).symm
  · rw [hnone] at hget
    cases hget

end Chapter

end Hub

end LeasePool
