import LeasePool.Hub
import LeasePool.Proofs.Routes
import LeasePool.Proofs.Runs
import LeasePool.Proofs.Stations
import LeasePool.Proofs.Turns

/-!
Everything that can be done to a hub, as operations that may follow each other in any order: calls
of the registry, messages to stations, the use of mailboxes, the turns of stations, timers that
fire, and time that passes. Most operations are addressed to one pool. Such an operation changes
nothing that another pool could notice.
-/
namespace LeasePool

open Coordinator (Input Occasion)

namespace Exchange

/-- The address whose mailboxes a use is about. -/
def Use.address? : Use → Option Address
  | .register a | .deliver a _ | .isRegistered a => some a
  | .close m | .receive m => some m.address
  | .routeCount => none

variable {x x' : Exchange} {a b : Address}

theorem row_use_of_ne {u : Use} (ha : u.address? = some a) (hne : a ≠ b) :
    (x.use u).1.row b = x.row b := by
  cases u with
  | deliver c r =>
    obtain rfl := Option.some.inj ha
    rw [use_deliver, post, deliver]
    cases (x.row c).deliver? r with
    | none => rfl
    | some row => exact (row_setRow x c b row).trans (if_neg hne)
  | register c | close m | receive m =>
    obtain rfl := Option.some.inj ha
    exact (row_setRow x _ b _).trans (if_neg hne)
  | isRegistered c | routeCount => rfl

/-- A use depends on nothing but the mailboxes of its address. -/
theorem use_of_row {u : Use} (ha : u.address? = some a) (hrow : x.row a = x'.row a) :
    (x.use u).1.row a = (x'.use u).1.row a ∧ (x.use u).2 = (x'.use u).2 := by
  cases u with
  | register c =>
    obtain rfl := Option.some.inj ha
    unfold use register
    dsimp only
    rw [row_setRow, row_setRow, if_pos rfl, if_pos rfl, hrow]
    exact ⟨rfl, rfl⟩
  | close m =>
    obtain rfl := Option.some.inj ha
    unfold use close
    dsimp only
    rw [row_setRow, row_setRow, if_pos rfl, if_pos rfl, hrow]
    exact ⟨rfl, rfl⟩
  | deliver c r =>
    obtain rfl := Option.some.inj ha
    unfold use deliver
    dsimp only
    rw [← hrow]
    cases (x.row c).deliver? r with
    | none => exact ⟨hrow, rfl⟩
    | some row =>
      refine ⟨?_, rfl⟩
      dsimp only
      rw [row_setRow, row_setRow, if_pos rfl, if_pos rfl]
  | receive m =>
    obtain rfl := Option.some.inj ha
    unfold use
    dsimp only
    rw [receive_eq, receive_eq, row_setRow, row_setRow, if_pos rfl, if_pos rfl, hrow]
    exact ⟨rfl, rfl⟩
  | isRegistered c =>
    obtain rfl := Option.some.inj ha
    have hreached : x.isRegistered c = x'.isRegistered c := by rw [isRegistered, hrow]; rfl
    exact ⟨hrow, congrArg Finding.registered hreached⟩
  | routeCount => cases ha

end Exchange

/-! ### Queries without their numbers -/

/-- The envelope, less the number of the query. -/
def Envelope.anonymous (e : Envelope) : Envelope := { e with query := e.query.map fun _ => 0 }

namespace Station

/-- The station, less the numbers of the queries. -/
def anonymous (s : Station) : Station := { s with inbox := s.inbox.map Envelope.anonymous }

theorem anonymous_messages (s : Station) : s.anonymous.messages = s.messages := by
  unfold messages anonymous
  rw [List.map_map]
  rfl

end Station

namespace Hub

/-! ### Operations -/

/-- Something that is done to a hub. -/
inductive Operation where
  /-- Looks up the station that is listed for a pool. -/
  | get (pool : PoolName)
  | getOrStart (pool : PoolName) (options : PoolOptions)
  /-- Sends a message to the station of a pool, which is started first if none is at work. -/
  | signal (pool : PoolName) (options : PoolOptions) (m : Message)
  | shutdown
  /-- Starts a station outside the registry. -/
  | start (pool : PoolName) (options : PoolOptions)
  | stop (id : StationId)
  | addHandle (id : StationId)
  | dropHandle (id : StationId)
  | send (id : StationId) (m : Message)
  | ask (id : StationId) (m : Message)
  | mail (u : Exchange.Use)
  /-- From now on a requester crashes the stations that hand it a response. -/
  | spoil (requester : String)
  /-- Time passes, and the calendar may jump. -/
  | pass (wall : Timestamp) (nanos : Nat)
  /-- A station takes the next thing that it has to do. -/
  | work (id : StationId)
  /-- The timer of a lease fires, if it is due. -/
  | expire (id : StationId) (lease : Nat)
deriving Repr, Inhabited

/-- What comes of an operation. -/
inductive Outcome where
  | done
  | failed (e : StartError)
  | found (id : Option StationId)
  | had (id : StationId)
  | sent (id : StationId) (posting : Posting Unit)
  | mail (finding : Exchange.Finding)
  /-- What a station handled, if it did not halt, and what it did. -/
  | worked (occasion : Option Occasion) (effects : List Effect)
  | fired
  /-- There was nothing to do. -/
  | idle

namespace Operation

/-- The pool that an operation is addressed to. -/
def pool? : Operation → Option PoolName
  | .get pool | .getOrStart pool _ | .signal pool _ _ | .start pool _ => some pool
  | .stop id | .addHandle id | .dropHandle id | .send id _ | .ask id _ | .work id
  | .expire id _ => some id.pool
  | .mail u => u.address?.map Address.pool
  | .shutdown | .spoil _ | .pass _ _ => none

end Operation

/-- Whether a response to a requester of a pool would be delivered now. -/
def reach (h : Hub) (pool : PoolName) (requester : String) : Bool :=
  h.exchange.isRegistered ⟨pool, requester⟩

/-- The next turn of a station, if it has something to do. -/
def turn? (h : Hub) (id : StationId) : Option Turn :=
  (h.station? id).bind fun s =>
    s.take? h.clock.still (h.reach id.pool) h.faulty.contains (h.isHeld id)

/-- What a station handles in its next turn, and when. -/
def occasion? (h : Hub) (id : StationId) : Option Occasion :=
  (h.station? id).bind fun s => s.input?.map fun input => ⟨h.clock.still, h.reach id.pool, input⟩

/-- The hub after an attempt to send. -/
def settle (h : Hub) : Posting Hub → Hub
  | .accepted h' => h'
  | .full | .refused => h

def operate (h : Hub) : Operation → Hub × Outcome
  | .get pool => (h, .found (h.get? pool))
  | .getOrStart pool options =>
    match h.getOrStart pool options with
    | .ok (h', id) => (h', .had id)
    | .error e => (h, .failed e)
  | .signal pool options m =>
    match h.getOrStart pool options with
    | .ok (h', id) => (h'.settle (h'.send id m), .sent id ((h'.send id m).map fun _ => ()))
    | .error e => (h, .failed e)
  | .shutdown => (h.shutdown, .done)
  | .start pool options =>
    match h.start pool options with
    | .ok (h', id) => (h', .had id)
    | .error e => (h, .failed e)
  | .stop id => (h.stop id, .done)
  | .addHandle id => (h.addHandle id, .done)
  | .dropHandle id => (h.dropHandle id, .done)
  | .send id m => (h.settle (h.send id m), .sent id ((h.send id m).map fun _ => ()))
  | .ask id m => (h.settle (h.ask id m), .sent id ((h.ask id m).map fun _ => ()))
  | .mail u => ({ h with exchange := (h.exchange.use u).1 }, .mail (h.exchange.use u).2)
  | .spoil requester => ({ h with faulty := requester :: h.faulty }, .done)
  | .pass wall nanos => ({ h with clock := ⟨wall, h.clock.ticks + nanos⟩ }, .done)
  | .work id =>
    match h.work? id with
    | some h' => (h', .worked (h.occasion? id) ((h.turn? id).elim [] Turn.effects))
    | none => (h, .idle)
  | .expire id lease =>
    match h.fire? id lease with
    | some h' => (h', .fired)
    | none => (h, .idle)

/-- An operation and what came of it. -/
structure Act where
  operation : Operation
  outcome : Outcome

def follow (state : Hub × List Act) (o : Operation) : Hub × List Act :=
  ((state.1.operate o).1, state.2 ++ [⟨o, (state.1.operate o).2⟩])

/-- The hub after some operations, and the record of them. -/
def run (h : Hub) (os : List Operation) : Hub × List Act := os.foldl follow (h, [])

theorem run_concat (hub : Hub) (os : List Operation) (o : Operation) :
    hub.run (os ++ [o]) = (((hub.run os).1.operate o).1,
      (hub.run os).2 ++ [⟨o, ((hub.run os).1.operate o).2⟩]) := by
  rw [run, List.foldl_append]
  rfl

/-! ### Turns -/

variable {hub hub' hub'' : Hub} {p : PoolName} {id : StationId}

theorem isSome_work? (hub : Hub) (id : StationId) :
    (hub.work? id).isSome = (hub.turn? id).isSome := by
  unfold work? turn? reach
  cases hub.station? id with
  | none => rfl
  | some s =>
    simp only [Option.bind_eq_bind, Option.bind_some]
    cases s.take? hub.clock.still _ hub.faulty.contains (hub.isHeld id) <;> rfl

/-- What a station does for its hub is what it does in its turn, carried out. -/
theorem exists_of_work? (hwork : hub.work? id = some hub') :
    ∃ s turn timed, hub.station? id = some s ∧ hub.turn? id = some turn ∧
      hub' = turn.effects.foldl (carryOut id.pool turn.query)
        ({ hub with timed }.setStation id turn.station) := by
  unfold work? at hwork
  obtain ⟨s, hs, hwork⟩ := Option.bind_eq_some_iff.mp hwork
  obtain ⟨turn, hturn, hwork⟩ := Option.bind_eq_some_iff.mp hwork
  refine ⟨s, turn, _, hs, ?_, (Option.some.inj hwork).symm⟩
  rw [turn?, hs]
  exact hturn

/-! ### What a pool can notice -/

/-- The events of a pool. -/
def events (h : Hub) (p : PoolName) : List Event :=
  (h.log.filter fun r => r.pool = p).map Report.event

/-- How many stations were started for a pool. -/
def started (h : Hub) (p : PoolName) : Nat := h.stations.keys.countP fun id => id.pool = p

/-- The entries of the registry for a pool. -/
def entries (h : Hub) (p : PoolName) : Assoc PoolName Nat := h.listed.filter fun e => e.1 = p

/-- Two hubs in which a pool finds everything that concerns it the same. -/
structure SameFor (p : PoolName) (hub hub' : Hub) : Prop where
  clock_eq : hub.clock = hub'.clock
  shutDown_eq : hub.shutDown = hub'.shutDown
  faulty_eq : hub.faulty = hub'.faulty
  station_eq : ∀ n, (hub.station? ⟨p, n⟩).map Station.anonymous =
    (hub'.station? ⟨p, n⟩).map Station.anonymous
  started_eq : hub.started p = hub'.started p
  entries_eq : hub.entries p = hub'.entries p
  handles_eq : ∀ n, hub.handles.count ⟨p, n⟩ = hub'.handles.count ⟨p, n⟩
  row_eq : ∀ q, hub.exchange.row ⟨p, q⟩ = hub'.exchange.row ⟨p, q⟩
  events_eq : hub.events p = hub'.events p

namespace SameFor

theorem refl (p : PoolName) (hub : Hub) : SameFor p hub hub :=
  ⟨rfl, rfl, rfl, fun _ => rfl, rfl, rfl, fun _ => rfl, fun _ => rfl, rfl⟩

theorem symm (h : SameFor p hub hub') : SameFor p hub' hub :=
  ⟨h.clock_eq.symm, h.shutDown_eq.symm, h.faulty_eq.symm, fun n => (h.station_eq n).symm,
    h.started_eq.symm, h.entries_eq.symm, fun n => (h.handles_eq n).symm,
    fun q => (h.row_eq q).symm, h.events_eq.symm⟩

theorem trans (h : SameFor p hub hub') (h' : SameFor p hub' hub'') : SameFor p hub hub'' :=
  ⟨h.clock_eq.trans h'.clock_eq, h.shutDown_eq.trans h'.shutDown_eq,
    h.faulty_eq.trans h'.faulty_eq, fun n => (h.station_eq n).trans (h'.station_eq n),
    h.started_eq.trans h'.started_eq, h.entries_eq.trans h'.entries_eq,
    fun n => (h.handles_eq n).trans (h'.handles_eq n),
    fun q => (h.row_eq q).trans (h'.row_eq q), h.events_eq.trans h'.events_eq⟩

end SameFor

/-! ### Changes that another pool does not notice -/

theorem pool_of_get? (hget : hub.get? p = some id) : id.pool = p := by
  unfold get? at hget
  split at hget
  · split at hget
    · cases hget
    · rw [← Option.some.inj hget]
  · cases hget

theorem started_setStation (hub : Hub) (id : StationId) (s : Station) (p : PoolName) :
    (hub.setStation id s).started p =
      if (hub.station? id).isNone ∧ id.pool = p then hub.started p + 1 else hub.started p := by
  unfold started setStation
  cases hid : hub.station? id with
  | some s' =>
    have hkey : id ∈ hub.stations.keys := by
      by_contra hkey
      rw [station?, (Assoc.get?_eq_none_iff id hub.stations).mpr hkey] at hid
      cases hid
    simp only [Assoc.keys_put_of_mem s hkey]
    exact (if_neg fun hnone => Bool.false_ne_true hnone.1).symm
  | none =>
    have hkeys : Assoc.keys (Assoc.put id s hub.stations) = hub.stations.keys ++ [id] := by
      rw [Assoc.put_of_get?_eq_none s hid, Assoc.keys, List.map_append]
      rfl
    simp only [hkeys, List.countP_append, List.countP_singleton]
    by_cases hp : id.pool = p <;> simp [hp]

theorem sameFor_setStation (hne : id.pool ≠ p) (s : Station) :
    SameFor p hub (hub.setStation id s) := by
  refine { SameFor.refl p hub with station_eq := fun n => ?_, started_eq := ?_ }
  · rw [station?_setStation, if_neg]
    exact fun heq => hne (congrArg StationId.pool heq)
  · rw [started_setStation, if_neg fun hboth => hne hboth.2]

theorem events_report (hub : Hub) (pool p : PoolName) (e : Event) :
    (hub.report pool e).events p = if pool = p then hub.events p ++ [e] else hub.events p := by
  unfold events report
  rw [List.filter_append, List.map_append]
  by_cases hp : pool = p <;> simp [hp]

theorem sameFor_report {pool : PoolName} (hne : pool ≠ p) (e : Event) :
    SameFor p hub (hub.report pool e) :=
  { SameFor.refl p hub with events_eq := by rw [events_report, if_neg hne] }

theorem sameFor_exchange {x : Exchange} (hrow : ∀ q, hub.exchange.row ⟨p, q⟩ = x.row ⟨p, q⟩) :
    SameFor p hub { hub with exchange := x } :=
  { SameFor.refl p hub with row_eq := hrow }

theorem entries_put (hub : Hub) (pool : PoolName) (number : Nat) :
    ({ hub with listed := hub.listed.put pool number } : Hub).entries p =
      if pool = p then (hub.entries p).put p number else hub.entries p := by
  unfold entries
  dsimp only
  induction hub.listed with
  | nil => by_cases hp : pool = p <;> simp [Assoc.put, hp]
  | cons entry rest ih =>
    obtain ⟨other, n⟩ := entry
    by_cases hp : pool = p
    · subst hp
      by_cases hother : other = pool
      · simp [Assoc.put, hother]
      · rw [if_pos rfl] at ih
        simp [Assoc.put, hother, ih]
    · by_cases hother : other = pool
      · simp [Assoc.put, hother, hp]
      · rw [if_neg hp] at ih
        by_cases hp' : other = p <;> simp [Assoc.put, hother, hp, hp', Ne.symm hp, ih]

theorem get?_entries (hub : Hub) (p : PoolName) :
    (hub.entries p).get? p = hub.listed.get? p := by
  unfold entries
  induction hub.listed with
  | nil => rfl
  | cons entry rest ih =>
    obtain ⟨other, n⟩ := entry
    by_cases hother : other = p <;> simp [Assoc.get?, hother, ih]

theorem sameFor_listed {pool : PoolName} (hne : pool ≠ p) (number : Nat) :
    SameFor p hub { hub with listed := hub.listed.put pool number } :=
  { SameFor.refl p hub with entries_eq := by rw [entries_put, if_neg hne] }

theorem row_post_of_ne {x : Exchange} {a b : Address} (hne : a ≠ b) (r : Response) :
    (x.post a r).row b = x.row b := by
  have hrow := Exchange.row_use_of_ne (x := x) (u := .deliver a r) rfl hne
  rwa [Exchange.use_deliver] at hrow

theorem sameFor_carryOut {pool : PoolName} (hne : pool ≠ p) (query : Option Nat)
    (effect : Effect) : SameFor p hub (carryOut pool query hub effect) := by
  rcases effect with ⟨requester, r, _ | _⟩ | e | n | a
  · exact .refl p hub
  · rw [carryOut_delivery]
    refine sameFor_exchange fun q => (row_post_of_ne ?_ r).symm
    exact fun heq => hne (congrArg Address.pool heq)
  · exact sameFor_report hne e
  · exact .refl p hub
  · cases query <;> exact { SameFor.refl p hub with }

theorem sameFor_foldl_carryOut {pool : PoolName} (hne : pool ≠ p) (query : Option Nat)
    (effects : List Effect) : SameFor p hub (effects.foldl (carryOut pool query) hub) := by
  induction effects generalizing hub with
  | nil => exact .refl p hub
  | cons effect rest ih => exact (sameFor_carryOut hne query effect).trans ih

theorem sameFor_start {options : PoolOptions} {pool : PoolName} (hne : pool ≠ p)
    (hstart : hub.start pool options = .ok (hub', id)) : SameFor p hub hub' := by
  obtain ⟨c, e, -, rfl, rfl⟩ := start_eq_ok hstart
  exact (sameFor_setStation hne _).trans (sameFor_report hne e)

theorem sameFor_getOrStart {options : PoolOptions} {pool : PoolName} (hne : pool ≠ p)
    (hget : hub.getOrStart pool options = .ok (hub', id)) : SameFor p hub hub' := by
  rcases getOrStart_cases hget with ⟨-, rfl⟩ | ⟨-, -, hub₁, hstart, rfl⟩
  · exact .refl p _
  · exact (sameFor_start hne hstart).trans (sameFor_listed hne _)

theorem sameFor_stop (hne : id.pool ≠ p) : SameFor p hub (hub.stop id) := by
  unfold stop
  split
  · exact sameFor_setStation hne _
  · exact .refl p hub

theorem sameFor_settle_send (hne : id.pool ≠ p) (m : Message) :
    SameFor p hub (hub.settle (hub.send id m)) := by
  cases hsend : hub.send id m with
  | accepted hub' =>
    obtain ⟨s, -, -, rfl⟩ := posted_of_post hsend
    exact sameFor_setStation hne _
  | full | refused => exact .refl p hub

theorem sameFor_settle_ask (hne : id.pool ≠ p) (m : Message) :
    SameFor p hub (hub.settle (hub.ask id m)) := by
  cases hask : hub.ask id m with
  | accepted hub' =>
    obtain ⟨hub₁, hpost, rfl⟩ := exists_post_of_ask hask
    obtain ⟨s, -, -, rfl⟩ := posted_of_post hpost
    exact { sameFor_setStation hne _ with }
  | full | refused => exact .refl p hub

/-- What is addressed to one pool, no other pool notices. -/
theorem sameFor_operate {q : PoolName} {o : Operation} (ho : o.pool? = some q) (hne : q ≠ p) :
    SameFor p hub (hub.operate o).1 := by
  cases o with
  | get pool => exact .refl p hub
  | getOrStart pool options =>
    obtain rfl := Option.some.inj ho
    unfold operate
    dsimp only
    cases hget : hub.getOrStart pool options with
    | error e => exact .refl p hub
    | ok result => exact sameFor_getOrStart hne hget
  | signal pool options m =>
    obtain rfl := Option.some.inj ho
    unfold operate
    dsimp only
    cases hget : hub.getOrStart pool options with
    | error e => exact .refl p hub
    | ok result =>
      refine (sameFor_getOrStart hne hget).trans (sameFor_settle_send ?_ m)
      rcases getOrStart_cases hget with ⟨hpool, -⟩ | ⟨-, -, hub₁, hstart, -⟩
      · rwa [hpool]
      · obtain ⟨-, -, -, hid, -⟩ := start_eq_ok hstart
        rwa [hid]
  | start pool options =>
    obtain rfl := Option.some.inj ho
    unfold operate
    dsimp only
    cases hstart : hub.start pool options with
    | error e => exact .refl p hub
    | ok result => exact sameFor_start hne hstart
  | stop id =>
    obtain rfl := Option.some.inj ho
    exact sameFor_stop hne
  | addHandle id =>
    obtain rfl := Option.some.inj ho
    refine { SameFor.refl p hub with handles_eq := fun n => ?_ }
    exact (List.count_cons_of_ne (fun heq => hne (congrArg StationId.pool heq))).symm
  | dropHandle id =>
    obtain rfl := Option.some.inj ho
    refine { SameFor.refl p hub with handles_eq := fun n => ?_ }
    exact (List.count_erase_of_ne (fun heq => hne (congrArg StationId.pool heq).symm)).symm
  | send id m =>
    obtain rfl := Option.some.inj ho
    exact sameFor_settle_send hne m
  | ask id m =>
    obtain rfl := Option.some.inj ho
    exact sameFor_settle_ask hne m
  | mail u =>
    obtain ⟨a, ha, rfl⟩ := Option.map_eq_some_iff.mp ho
    refine sameFor_exchange fun q => (Exchange.row_use_of_ne ha ?_).symm
    exact fun heq => hne (congrArg Address.pool heq)
  | work id =>
    obtain rfl := Option.some.inj ho
    unfold operate
    dsimp only
    cases hwork : hub.work? id with
    | none => exact .refl p hub
    | some hub' =>
      obtain ⟨s, turn, timed, -, -, rfl⟩ := exists_of_work? hwork
      have htimed : SameFor p hub { hub with timed } := { SameFor.refl p hub with }
      exact (htimed.trans (sameFor_setStation hne _)).trans (sameFor_foldl_carryOut hne _ _)
  | expire id lease =>
    obtain rfl := Option.some.inj ho
    unfold operate
    dsimp only
    cases hfire : hub.fire? id lease with
    | none => exact .refl p hub
    | some hub' =>
      obtain ⟨s, w, -, -, rfl⟩ := exists_of_fire? hfire
      exact sameFor_setStation hne _
  | shutdown | spoil _ | pass _ _ => cases ho

end Hub

end LeasePool
