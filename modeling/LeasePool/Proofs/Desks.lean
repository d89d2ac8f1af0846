import LeasePool.Hub
import LeasePool.Proofs.Mailboxes
import LeasePool.Proofs.Standing
import LeasePool.Proofs.Turns

/-!
What can be told of a hub from outside. A station that works is seen as a desk: its coordinator
without the timers, and the messages in its inbox. Every operation of the hub is described by what
it does to the desks, to the exchange and to the answers; at most one desk of a pool is open, and
queries are numbered so that no number is used twice.
-/
namespace LeasePool

/-- The coordinator without its timers. -/
def Coordinator.still (c : Coordinator) : Coordinator := { c with watchers := [] }

/-- A station that works, as others see it. -/
structure Desk where
  coordinator : Coordinator
  inbox : List Envelope

/-! ### What a station takes -/

namespace Station

open Coordinator (Input Stepped Resting)

variable {s : Station} {clock : Readings} {reach faulty : String → Bool} {held : Bool} {turn : Turn}

def desk? (s : Station) : Option Desk :=
  if s.isClosed then none else some ⟨s.coordinator.still, s.inbox⟩

theorem desk?_eq_some (hopen : s.isClosed = false) :
    s.desk? = some ⟨s.coordinator.still, s.inbox⟩ := by
  rw [desk?, hopen]
  rfl

/-- The next input, the query that belongs to it, and the inbox without it. -/
inductive Takes : List Envelope → Input → Option Nat → List Envelope → Prop where
  | expiry (inbox : List Envelope) (e : Expiry) : Takes inbox (.expiry e) none inbox
  | message (e : Envelope) (rest : List Envelope) :
      Takes (e :: rest) (.message e.message) e.query rest

theorem Takes.mem_of_rest {inbox rest : List Envelope} {input : Input} {query : Option Nat}
    {e : Envelope} (htakes : Takes inbox input query rest) (he : e ∈ rest) : e ∈ inbox := by
  cases htakes with
  | expiry => exact he
  | message => exact List.mem_cons_of_mem _ he

theorem Takes.inbox_of_query {inbox rest : List Envelope} {input : Input} {q : Nat}
    (htakes : Takes inbox input (some q) rest) :
    ∃ e, inbox = e :: rest ∧ e.query = some q := by
  generalize hquery : some q = query at htakes
  cases htakes with
  | expiry => cases hquery
  | message e rest => exact ⟨e, rfl, rfl⟩

theorem Takes.inbox_of_message {inbox rest : List Envelope} {m : Message} {query : Option Nat}
    (htakes : Takes inbox (.message m) query rest) : ∃ e, inbox = e :: rest ∧ e.message = m := by
  cases htakes with
  | message e rest => exact ⟨e, rfl, rfl⟩

theorem Takes.mem_of_message {inbox rest : List Envelope} {m : Message} {query : Option Nat}
    (htakes : Takes inbox (.message m) query rest) : ∃ e ∈ inbox, e.message = m := by
  obtain ⟨e, rfl, he⟩ := htakes.inbox_of_message
  exact ⟨e, List.mem_cons_self, he⟩

/-- A station at work halts, or handles an input, or crashes in the middle of that. -/
inductive Took (clock : Readings) (reach : String → Bool) (s : Station) (turn : Turn) : Prop where
  | halted (hclosed : turn.station.isClosed = true)
      (heffects : turn.effects = [.event .stopped]) (hquery : turn.query = none)
  | handled {input : Input} {c : Coordinator} {rest : List Envelope}
      (htakes : Takes s.inbox input turn.query rest)
      (hstep : Stepped clock reach s.coordinator input turn.effects c)
      (hopen : turn.station.isClosed = false) (hcoordinator : turn.station.coordinator = c)
      (hinbox : turn.station.inbox = rest)
  | crashed {input : Input} {c : Coordinator} {query : Option Nat} {rest : List Envelope}
      {effects : List Effect} (n : Nat) (htakes : Takes s.inbox input query rest)
      (hstep : Stepped clock reach s.coordinator input effects c)
      (hclosed : turn.station.isClosed = true) (heffects : turn.effects = effects.take n)
      (hquery : turn.query = none)

theorem took_handle {rest : List Envelope} {expired : List Expiry} {input : Input}
    {query : Option Nat} (hopen : s.isClosed = false) (hc : s.coordinator.Resting)
    (htakes : Takes s.inbox input query rest) :
    Took clock reach s
      (({ s with inbox := rest, expired }).handle clock reach faulty input query) := by
  have hstep := hc.toSound.step hc.settled clock reach input
  rcases ({ s with inbox := rest, expired }).handle_cases clock reach faulty input query with
    heq | ⟨n, heq⟩ <;> rw [heq]
  · exact Took.handled htakes hstep hopen rfl rfl
  · exact Took.crashed n htakes hstep rfl rfl rfl

theorem took_of_take? (hc : s.isClosed = false → s.coordinator.Resting)
    (htake : s.take? clock reach faulty held = some turn) :
    s.isClosed = false ∧ Took clock reach s turn := by
  unfold take? at htake
  cases hopen : s.isClosed with
  | true => simp [hopen] at htake
  | false =>
    refine ⟨rfl, ?_⟩
    simp only [hopen, Bool.false_eq_true, if_false] at htake
    split at htake
    · rw [← Option.some.inj htake]
      exact Took.halted rfl rfl rfl
    · split at htake
      case h_1 e rest hexpired =>
        rw [← Option.some.inj htake]
        exact took_handle hopen (hc hopen) (Takes.expiry s.inbox e)
      case h_2 e rest hexpired hinbox =>
        rw [← Option.some.inj htake]
        refine took_handle hopen (hc hopen) ?_
        rw [hinbox]
        exact Takes.message e rest
      case h_3 =>
        split at htake
        · cases htake
        · rw [← Option.some.inj htake]
          exact Took.halted rfl rfl rfl

end Station

/-- Whether a message is a request of a requester. -/
def Message.requests (q : String) : Message → Bool
  | .request requester _ => requester = q
  | _ => false

namespace Desk

open Coordinator (Input Stepped)

variable {d : Desk} {q : String}

def messages (d : Desk) : List Message := d.inbox.map Envelope.message

instance (q : String) (ms : List Message) : Decidable (∀ priority, .request q priority ∉ ms) :=
  decidable_of_iff (∀ m ∈ ms, m.requests q = false) ⟨
    fun h priority hmem => absurd (h _ hmem) (by simp [Message.requests]),
    fun h m hm => by
      cases m with
      | request requester priority =>
        rw [Message.requests, decide_eq_false_iff_not]
        rintro rfl
        exact h priority hm
      | _ => rfl⟩

/-- A requester neither waits nor is about to. -/
structure Clear (d : Desk) (q : String) : Prop where
  not_waits : ¬ d.coordinator.Waits q
  not_request : ∀ priority, .request q priority ∉ d.messages

theorem clear_of_empty (hqueue : d.coordinator.pool.queue = []) (hinbox : d.inbox = []) :
    d.Clear q := by
  constructor
  · rw [Coordinator.Waits, hqueue]
    exact List.not_mem_nil
  · intro priority
    rw [messages, hinbox]
    exact List.not_mem_nil

theorem messages_concat (d : Desk) (e : Envelope) :
    ({ d with inbox := d.inbox ++ [e] } : Desk).messages = d.messages ++ [e.message] :=
  List.map_append

theorem Clear.concat {e : Envelope} (h : d.Clear q)
    (he : ∀ priority, e.message ≠ .request q priority) :
    Clear { d with inbox := d.inbox ++ [e] } q := by
  refine ⟨h.not_waits, fun priority hmem => ?_⟩
  rw [messages_concat] at hmem
  rcases List.mem_append.mp hmem with hold | hnew
  · exact h.not_request priority hold
  · exact he priority (List.mem_singleton.mp hnew).symm

theorem Clear.takes {c c' : Coordinator} {inbox rest : List Envelope} {clock : Readings}
    {reach : String → Bool} {input : Input} {query : Option Nat}
    {effects : List Effect} (h : Clear ⟨c.still, inbox⟩ q)
    (htakes : Station.Takes inbox input query rest)
    (hstep : Stepped clock reach c input effects c') : Clear ⟨c'.still, rest⟩ q := by
  constructor
  · intro hwaits
    rcases hstep.waits hwaits with hbefore | ⟨priority, rfl⟩
    · exact h.not_waits hbefore
    · obtain ⟨e, he, hrequest⟩ := htakes.mem_of_message
      exact h.not_request priority (List.mem_map.mpr ⟨e, he, hrequest⟩)
  · intro priority hmem
    obtain ⟨e, he, hrequest⟩ := List.mem_map.mp hmem
    exact h.not_request priority (List.mem_map.mpr ⟨e, htakes.mem_of_rest he, hrequest⟩)

end Desk

namespace Hub

open Coordinator (Input Stepped Resting)

variable {hub hub' : Hub} {id : StationId} {e : Envelope}

def desk? (hub : Hub) (id : StationId) : Option Desk := (hub.station? id).bind Station.desk?

theorem desk?_setStation (hub : Hub) (id other : StationId) (s : Station) :
    (hub.setStation id s).desk? other = if id = other then s.desk? else hub.desk? other := by
  unfold desk?
  rw [station?_setStation]
  split <;> rfl

theorem desk?_of_stations (hstations : hub'.stations = hub.stations) (id : StationId) :
    hub'.desk? id = hub.desk? id := by
  unfold desk? station?
  rw [hstations]

/-- A hub in which every station is in order. -/
structure Sound (hub : Hub) : Prop where
  exchange : hub.exchange.Sound
  resting : ∀ id s, hub.station? id = some s → s.isClosed = false → s.coordinator.Resting
  numbered : ∀ id ∈ hub.stations.keys,
    id.number < hub.stations.keys.countP fun other => other.pool = id.pool
  listed : ∀ id, (hub.desk? id).isSome →
    hub.listed.get? id.pool = some id.number ∨ hub.shutDown = true
  sole : ∀ id id', (hub.desk? id).isSome → (hub.desk? id').isSome → id.pool = id'.pool → id = id'
  query_lt : ∀ id d e q, hub.desk? id = some d → e ∈ d.inbox → e.query = some q → q < hub.asked
  answer_lt : ∀ q, (hub.answers.get? q).isSome → q < hub.asked

theorem Sound.exists_resting {d : Desk} (h : hub.Sound) (hd : hub.desk? id = some d) :
    ∃ c : Coordinator, c.Resting ∧ d.coordinator = c.still := by
  obtain ⟨s, hs, hdesk⟩ := Option.bind_eq_some_iff.mp hd
  unfold Station.desk? at hdesk
  split at hdesk
  · cases hdesk
  case isFalse hopen =>
    rw [← Option.some.inj hdesk]
    exact ⟨s.coordinator, h.resting id s hs (by simpa using hopen), rfl⟩

/-! ### Operations -/

/-- Nothing changed that concerns others. -/
structure Alike (hub hub' : Hub) : Prop where
  desk_eq : ∀ id, hub'.desk? id = hub.desk? id
  exchange_eq : hub'.exchange = hub.exchange
  answers_eq : hub'.answers = hub.answers
  asked_eq : hub'.asked = hub.asked

/-- An envelope came into an inbox. A query has the next number. -/
structure Posted (hub : Hub) (id : StationId) (e : Envelope) (hub' : Hub) : Prop where
  desks : ∃ d, hub.desk? id = some d ∧ ∀ other, hub'.desk? other =
    if id = other then some { d with inbox := d.inbox ++ [e] } else hub.desk? other
  exchange_eq : hub'.exchange = hub.exchange
  answers_eq : hub'.answers = hub.answers
  asked_eq : e.query = none ∧ hub'.asked = hub.asked ∨
    e.query = some hub.asked ∧ hub'.asked = hub.asked + 1

/-- A new station opened its desk. -/
structure Started (hub : Hub) (id : StationId) (hub' : Hub) : Prop where
  closed : hub.desk? id = none
  desks : ∃ c : Coordinator, c.pool.queue = [] ∧ c.leases = [] ∧
    ∀ other, hub'.desk? other = if id = other then some ⟨c, []⟩ else hub.desk? other
  exchange_eq : hub'.exchange = hub.exchange
  answers_eq : hub'.answers = hub.answers
  asked_eq : hub'.asked = hub.asked

/-- A station took something. It goes on, or closes its desk. -/
inductive Worked (hub : Hub) (id : StationId) (hub' : Hub) : Prop where
  | halted {d : Desk} (hdesk : hub.desk? id = some d)
      (hdesks : ∀ other, hub'.desk? other = if id = other then none else hub.desk? other)
      (hexchange : hub'.exchange = hub.exchange) (hanswers : hub'.answers = hub.answers)
      (hasked : hub'.asked = hub.asked)
  | handled {c c' : Coordinator} {inbox rest : List Envelope} {reach : String → Bool}
      {input : Input} {query : Option Nat} {effects : List Effect} (hc : c.Resting)
      (hdesk : hub.desk? id = some ⟨c.still, inbox⟩)
      (htakes : Station.Takes inbox input query rest)
      (hstep : Stepped hub.clock.still reach c input effects c')
      (hdesks : ∀ other, hub'.desk? other =
        if id = other then some ⟨c'.still, rest⟩ else hub.desk? other)
      (hexchange : hub'.exchange = hub.exchange.carry id.pool effects)
      (hanswers : ∀ q, (hub'.answers.get? q).isSome ↔
        (hub.answers.get? q).isSome ∨ query = some q ∧ ∃ a, .answer a ∈ effects)
      (hasked : hub'.asked = hub.asked)
  | crashed {c c' : Coordinator} {inbox rest : List Envelope} {reach : String → Bool}
      {input : Input} {query : Option Nat} {effects : List Effect} (n : Nat) (hc : c.Resting)
      (hdesk : hub.desk? id = some ⟨c.still, inbox⟩)
      (htakes : Station.Takes inbox input query rest)
      (hstep : Stepped hub.clock.still reach c input effects c')
      (hdesks : ∀ other, hub'.desk? other = if id = other then none else hub.desk? other)
      (hexchange : hub'.exchange = hub.exchange.carry id.pool (effects.take n))
      (hanswers : hub'.answers = hub.answers) (hasked : hub'.asked = hub.asked)

/-! ### Putting a station in place -/

/-- A station that was there may be replaced by one in order. -/
theorem Sound.setStation {s s' : Station} (h : hub.Sound) (hs : hub.station? id = some s)
    (hopen : s'.isClosed = false → s.isClosed = false)
    (hresting : s'.isClosed = false → s'.coordinator.Resting)
    (hquery : s'.isClosed = false → ∀ e ∈ s'.inbox, ∀ q, e.query = some q → q < hub.asked) :
    (hub.setStation id s').Sound := by
  have hkeys : (hub.setStation id s').stations.keys = hub.stations.keys := by
    refine Assoc.keys_put_of_mem _ ?_
    by_contra hkey
    rw [station?, (Assoc.get?_eq_none_iff id hub.stations).mpr hkey] at hs
    cases hs
  have hstill (other : StationId) (hdesk : ((hub.setStation id s').desk? other).isSome) :
      (hub.desk? other).isSome := by
    rw [desk?_setStation] at hdesk
    split at hdesk
    case isTrue heq =>
      subst heq
      cases hclosed : s'.isClosed with
      | true => simp [Station.desk?, hclosed] at hdesk
      | false => simp [desk?, hs, Station.desk?, hopen hclosed]
    case isFalse => exact hdesk
  constructor
  · exact h.exchange
  · intro other t ht hclosed
    rw [station?_setStation] at ht
    split at ht
    · rw [← Option.some.inj ht] at hclosed ⊢
      exact hresting hclosed
    · exact h.resting other t ht hclosed
  · rw [hkeys]
    exact h.numbered
  · exact fun other hother => h.listed other (hstill other hother)
  · exact fun a b ha hb => h.sole a b (hstill a ha) (hstill b hb)
  · intro other d e q hd he hq
    rw [desk?_setStation] at hd
    split at hd
    · cases hclosed : s'.isClosed with
      | true => simp [Station.desk?, hclosed] at hd
      | false =>
        rw [Station.desk?_eq_some hclosed, Option.some.injEq] at hd
        rw [← hd] at he
        exact hquery hclosed e he q hq
    · exact h.query_lt other d e q hd he hq
  · exact h.answer_lt

theorem Sound.inbox_query_lt {s : Station} (h : hub.Sound) (hs : hub.station? id = some s)
    (hopen : s.isClosed = false) : ∀ e ∈ s.inbox, ∀ q, e.query = some q → q < hub.asked := by
  intro e he q hq
  have hdesk : hub.desk? id = some ⟨s.coordinator.still, s.inbox⟩ := by
    rw [desk?, hs]
    exact Station.desk?_eq_some hopen
  exact h.query_lt id _ e q hdesk he hq

theorem Sound.moreAsked (h : hub.Sound) : ({ hub with asked := hub.asked + 1 } : Hub).Sound :=
  { h with
    query_lt := fun id d e q hd he hq => Nat.lt_succ_of_lt (h.query_lt id d e q hd he hq)
    answer_lt := fun q hq => Nat.lt_succ_of_lt (h.answer_lt q hq) }

/-- The exchange and the answers may change as long as they stay in order. -/
theorem Sound.of_same (h : hub.Sound) (hstations : hub'.stations = hub.stations)
    (hlisted : hub'.listed = hub.listed) (hshut : hub'.shutDown = hub.shutDown)
    (hasked : hub'.asked = hub.asked) (hexchange : hub'.exchange.Sound)
    (hanswers : ∀ q, (hub'.answers.get? q).isSome → q < hub.asked) : hub'.Sound := by
  have hdesk := desk?_of_stations hstations
  constructor
  · exact hexchange
  · intro id s hs
    rw [station?, hstations] at hs
    exact h.resting id s hs
  · rw [hstations]
    exact h.numbered
  · intro id hopen
    rw [hdesk] at hopen
    rw [hlisted, hshut]
    exact h.listed id hopen
  · intro id id' hopen hopen'
    rw [hdesk] at hopen hopen'
    exact h.sole id id' hopen hopen'
  · intro id d e q hd
    rw [hdesk] at hd
    rw [hasked]
    exact h.query_lt id d e q hd
  · rw [hasked]
    exact hanswers

theorem Sound.withExchange {x : Exchange} (h : hub.Sound) (hx : x.Sound) :
    ({ hub with exchange := x } : Hub).Sound :=
  h.of_same rfl rfl rfl rfl hx h.answer_lt

/-! ### Sending -/

theorem posted_of_post (hpost : hub.post id e = .accepted hub') :
    ∃ s, hub.station? id = some s ∧ s.isClosed = false ∧
      hub' = hub.setStation id { s with inbox := s.inbox ++ [e] } := by
  unfold post at hpost
  cases hs : hub.station? id with
  | none => simp [hs] at hpost
  | some s =>
    simp only [hs, Station.post] at hpost
    cases hopen : s.isClosed with
    | true => simp [hopen, Posting.map] at hpost
    | false =>
      cases hfull : s.isFull with
      | true => simp [hopen, hfull, Posting.map] at hpost
      | false =>
        simp only [hopen, hfull, Posting.map, Bool.false_eq_true, if_false,
          Posting.accepted.injEq] at hpost
        exact ⟨s, rfl, hopen, hpost.symm⟩

theorem desk?_of_refused (hpost : hub.post id e = .refused) : hub.desk? id = none := by
  unfold post at hpost
  unfold desk?
  cases hs : hub.station? id with
  | none => rfl
  | some s =>
    simp only [hs, Station.post] at hpost
    cases hopen : s.isClosed with
    | true => simp [Station.desk?, hopen]
    | false => cases hfull : s.isFull <;> simp [hopen, hfull, Posting.map] at hpost

theorem posted_setStation {s : Station} (hs : hub.station? id = some s)
    (hopen : s.isClosed = false) {asked : Nat}
    (hasked : e.query = none ∧ asked = hub.asked ∨
      e.query = some hub.asked ∧ asked = hub.asked + 1) :
    Posted hub id e { hub.setStation id { s with inbox := s.inbox ++ [e] } with asked } where
  desks := by
    refine ⟨⟨s.coordinator.still, s.inbox⟩, ?_, fun other => ?_⟩
    · rw [desk?, hs]
      exact Station.desk?_eq_some hopen
    · have hsame := desk?_setStation hub id other { s with inbox := s.inbox ++ [e] }
      rw [Station.desk?_eq_some (s := { s with inbox := s.inbox ++ [e] }) hopen] at hsame
      exact hsame
  exchange_eq := rfl
  answers_eq := rfl
  asked_eq := hasked

theorem posted_send {m : Message} (hsend : hub.send id m = .accepted hub') :
    Posted hub id ⟨m, none⟩ hub' := by
  obtain ⟨s, hs, hopen, rfl⟩ := posted_of_post hsend
  exact posted_setStation hs hopen (Or.inl ⟨rfl, rfl⟩)

theorem Sound.send {m : Message} (h : hub.Sound) (hsend : hub.send id m = .accepted hub') :
    hub'.Sound := by
  obtain ⟨s, hs, hopen, rfl⟩ := posted_of_post hsend
  refine h.setStation hs (fun _ => hopen) (fun _ => h.resting id s hs hopen) ?_
  intro _ e he q hq
  rcases List.mem_append.mp he with hold | hnew
  · exact h.inbox_query_lt hs hopen e hold q hq
  · rw [List.mem_singleton.mp hnew] at hq
    cases hq

theorem exists_post_of_ask {m : Message} (hask : hub.ask id m = .accepted hub') :
    ∃ hub₁, hub.post id ⟨m, some hub.asked⟩ = .accepted hub₁ ∧
      hub' = { hub₁ with asked := hub₁.asked + 1 } := by
  unfold ask at hask
  cases hpost : hub.post id ⟨m, some hub.asked⟩ with
  | accepted hub₁ =>
    rw [hpost] at hask
    exact ⟨hub₁, rfl, (Posting.accepted.inj hask).symm⟩
  | full | refused =>
    rw [hpost] at hask
    cases hask

theorem posted_ask {m : Message} (hask : hub.ask id m = .accepted hub') :
    Posted hub id ⟨m, some hub.asked⟩ hub' := by
  obtain ⟨hub₁, hpost, rfl⟩ := exists_post_of_ask hask
  obtain ⟨s, hs, hopen, rfl⟩ := posted_of_post hpost
  exact posted_setStation hs hopen (Or.inr ⟨rfl, rfl⟩)

theorem Sound.ask {m : Message} (h : hub.Sound) (hask : hub.ask id m = .accepted hub') :
    hub'.Sound := by
  obtain ⟨hub₁, hpost, rfl⟩ := exists_post_of_ask hask
  obtain ⟨s, hs, hopen, rfl⟩ := posted_of_post hpost
  refine h.moreAsked.setStation hs (fun _ => hopen) (fun _ => h.resting id s hs hopen) ?_
  intro _ e he q hq
  rcases List.mem_append.mp he with hold | hnew
  · exact Nat.lt_succ_of_lt (h.inbox_query_lt hs hopen e hold q hq)
  · rw [List.mem_singleton.mp hnew] at hq
    exact (Option.some.inj hq) ▸ Nat.lt_succ_self hub.asked

theorem desk?_of_ask_refused {m : Message} (hask : hub.ask id m = .refused) :
    hub.desk? id = none := by
  unfold ask at hask
  cases hpost : hub.post id ⟨m, some hub.asked⟩ with
  | accepted hub₁ | full =>
    rw [hpost] at hask
    cases hask
  | refused => exact desk?_of_refused hpost

/-! ### Timers, and stations that are told to halt -/

theorem alike_setStation {s s' : Station} (hs : hub.station? id = some s)
    (hdesk : s'.desk? = s.desk?) : Alike hub (hub.setStation id s') where
  desk_eq other := by
    rw [desk?_setStation]
    split
    case isTrue heq =>
      subst heq
      rw [desk?, hs, hdesk]
      rfl
    case isFalse => rfl
  exchange_eq := rfl
  answers_eq := rfl
  asked_eq := rfl

theorem Alike.refl (hub : Hub) : Alike hub hub := ⟨fun _ => rfl, rfl, rfl, rfl⟩

theorem Alike.trans {hub'' : Hub} (ha : Alike hub hub') (hb : Alike hub' hub'') : Alike hub hub'' :=
  ⟨fun id => (hb.desk_eq id).trans (ha.desk_eq id), hb.exchange_eq.trans ha.exchange_eq,
    hb.answers_eq.trans ha.answers_eq, hb.asked_eq.trans ha.asked_eq⟩

theorem exists_of_fire? {lease : Nat} (hfire : hub.fire? id lease = some hub') :
    ∃ s w, hub.station? id = some s ∧ s.isClosed = false ∧ hub' = hub.setStation id
      { s with coordinator := s.coordinator.fireWatcher lease, expired := s.expired ++ [w] } := by
  unfold fire? at hfire
  obtain ⟨s, hs, hfire⟩ := Option.bind_eq_some_iff.mp hfire
  obtain ⟨s', hs', hset⟩ := Option.bind_eq_some_iff.mp hfire
  unfold Station.fire? at hs'
  obtain ⟨w, hw, rfl⟩ := Option.map_eq_some_iff.mp hs'
  have hopen : s.isClosed = false := by
    cases hclosed : s.isClosed with
    | false => rfl
    | true => simp [Station.timer?, Station.armed, hclosed] at hw
  exact ⟨s, w.expiry, hs, hopen, (Option.some.inj hset).symm⟩

theorem alike_fire? {lease : Nat} (hfire : hub.fire? id lease = some hub') : Alike hub hub' := by
  obtain ⟨s, w, hs, -, rfl⟩ := exists_of_fire? hfire
  exact alike_setStation hs rfl

theorem Sound.fire? {lease : Nat} (h : hub.Sound) (hfire : hub.fire? id lease = some hub') :
    hub'.Sound := by
  obtain ⟨s, w, hs, hopen, rfl⟩ := exists_of_fire? hfire
  have hc := h.resting id s hs hopen
  refine h.setStation hs (fun _ => hopen) (fun _ => ?_) fun _ e he q hq =>
    h.inbox_query_lt hs hopen e he q hq
  exact hc.fireWatcher lease

theorem alike_stop (hub : Hub) (id : StationId) : Alike hub (hub.stop id) := by
  unfold stop
  split
  case h_1 s hs => exact alike_setStation hs rfl
  case h_2 => exact .refl hub

theorem Sound.stop (h : hub.Sound) (id : StationId) : (hub.stop id).Sound := by
  unfold Hub.stop
  split
  case h_1 s hs =>
    exact h.setStation hs (fun hopen => hopen) (h.resting _ s hs) fun hopen e he q hq =>
      h.inbox_query_lt hs hopen e he q hq
  case h_2 => exact h

theorem sound_and_alike_foldl_stop (ids : Assoc PoolName Nat) (h : hub.Sound) :
    (ids.foldl (fun hub (pool, number) => hub.stop ⟨pool, number⟩) hub).Sound ∧
      Alike hub (ids.foldl (fun hub (pool, number) => hub.stop ⟨pool, number⟩) hub) := by
  induction ids generalizing hub with
  | nil => exact ⟨h, .refl hub⟩
  | cons entry rest ih =>
    obtain ⟨hsound, halike⟩ := ih (h.stop ⟨entry.1, entry.2⟩)
    exact ⟨hsound, (alike_stop hub _).trans halike⟩

theorem Sound.shutdown (h : hub.Sound) : hub.shutdown.Sound ∧ Alike hub hub.shutdown := by
  obtain ⟨hsound, hdesk, hexchange, hanswers, hasked⟩ :=
    sound_and_alike_foldl_stop hub.listed h
  exact ⟨{ hsound with listed := fun _ _ => Or.inr rfl }, hdesk, hexchange, hanswers, hasked⟩

end Hub

end LeasePool
