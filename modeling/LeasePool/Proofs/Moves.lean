import LeasePool.World
import LeasePool.Proofs.Calls
import LeasePool.Proofs.Stations

/-!
Everything that can happen in a world, in any order: what happens by itself, one action at a time,
and what is done from outside. The registry starts all stations, and mailboxes of acquisitions are
used by nobody else. A run keeps the hub sound and every acquisition in its place; each move is read
as what it does to the desks, to the exchange and to the acquisitions.
-/
namespace LeasePool

/-- Something that can happen. Where it is impossible, nothing happens. -/
inductive Move where
  /-- An action that is taken by itself. -/
  | act (action : Action)
  | acquire (client : Client) (resource : String) (leaseTimeout : Option Duration)
      (token : Option Nat)
  | abort (acquisition : Nat)
  | addToken
  | fire (token : Nat)
  | watch (e : Expiry) (timeout : Duration)
  /-- Time passes to a reading of the clocks. -/
  | pass (clock : Clock)
  | send (id : StationId) (m : Message)
  | ask (id : StationId) (m : Message)
  /-- Somebody has the registry start a pool. -/
  | enlist (pool : PoolName) (options : PoolOptions)
  | stop (id : StationId)
  | shutdown
  | addHandle (id : StationId)
  | dropHandle (id : StationId)
  /-- A requester crashes stations from now on. -/
  | spoil (requester : String)
  /-- Somebody opens a mailbox without acquiring. -/
  | register (address : Address)
  | close (mailbox : MailboxId)
  | receive (mailbox : MailboxId)
  /-- Somebody delivers a response in place of a station. -/
  | deliver (address : Address) (r : Response)

/-- The move opens a mailbox at an address. -/
def Move.Opens (address : Address) : Move → Prop
  | .acquire client resource _ _ => ⟨⟨client.space, resource⟩, client.requester⟩ = address
  | .register other => other = address
  | _ => False

namespace World

variable {w w' : World} {a : Acquisition} {mv : Move} {n : Nat}

/-- Whether a mailbox belongs to an acquisition. -/
def owns (w : World) (m : MailboxId) : Bool := w.acquisitions.any fun a => a.mailbox = m

/-- The world after an attempt to send. -/
def posted (w : World) : Posting Hub → World
  | .accepted hub => { w with hub }
  | .full | .refused => w

def withExchange (w : World) (exchange : Exchange) : World :=
  { w with hub := { w.hub with exchange } }

def move (w : World) : Move → World
  | .act action => (w.perform action).getD w
  | .acquire client resource leaseTimeout token => w.acquire client resource leaseTimeout token
  | .abort acquisition => w.abort acquisition
  | .addToken => w.addToken
  | .fire token => w.fire token
  | .watch e timeout => w.watch e timeout
  | .pass clock =>
    { w with hub := { w.hub with clock := { clock with ticks := max w.ticks clock.ticks } } }
  | .send id m => w.posted (w.hub.send id m)
  | .ask id m => w.posted (w.hub.ask id m)
  | .enlist pool options =>
    match w.hub.getOrStart pool options with
    | .ok (hub, _) => { w with hub }
    | .error _ => w
  | .stop id => { w with hub := w.hub.stop id }
  | .shutdown => { w with hub := w.hub.shutdown }
  | .addHandle id => { w with hub := w.hub.addHandle id }
  | .dropHandle id => { w with hub := w.hub.dropHandle id }
  | .spoil requester => { w with hub := { w.hub with faulty := requester :: w.hub.faulty } }
  | .register address => w.withExchange (w.hub.exchange.register address).1
  | .close mailbox =>
    if w.owns mailbox then w else w.withExchange (w.hub.exchange.close mailbox)
  | .receive mailbox =>
    if w.owns mailbox then w else w.withExchange (w.hub.exchange.receive mailbox).1
  | .deliver address r => w.withExchange (w.hub.exchange.post address r)

/-- The world after a run. -/
def run (w : World) (moves : List Move) : World := moves.foldl move w

theorem run_cons (w : World) (mv : Move) (moves : List Move) :
    w.run (mv :: moves) = (w.move mv).run moves := rfl

theorem run_append (w : World) (moves moves' : List Move) :
    w.run (moves ++ moves') = (w.run moves).run moves' := List.foldl_append

/-! ### Moves read from outside -/

/-- Whether the token of an acquisition has fired. -/
def isCancelled (w : World) (a : Acquisition) : Bool := a.token.any w.fired.contains

/-- Uses of the exchange that belong to no acquisition and no station. -/
inductive Mails (w : World) : Move → Exchange → Prop where
  | register (address : Address) : Mails w (.register address) (w.hub.exchange.register address).1
  | close {mailbox : MailboxId} (hfree : ∀ a ∈ w.acquisitions, mailbox ≠ a.mailbox) :
      Mails w (.close mailbox) (w.hub.exchange.close mailbox)
  | receive {mailbox : MailboxId} (hfree : ∀ a ∈ w.acquisitions, mailbox ≠ a.mailbox) :
      Mails w (.receive mailbox) (w.hub.exchange.receive mailbox).1
  | deliver (address : Address) (r : Response) :
      Mails w (.deliver address r) (w.hub.exchange.post address r)

/-- An acquisition starts with a new mailbox at its address. It has a station then, or is over. -/
structure Arrives (w : World) (mv : Move) (a : Acquisition) (hub' : Hub) : Prop where
  move_eq : ∃ client resource leaseTimeout, mv = .acquire client resource leaseTimeout a.token ∧
    a.mailbox.address = ⟨⟨client.space, resource⟩, client.requester⟩
  number_eq : a.mailbox.number = w.hub.exchange.registered a.mailbox.address
  pool_eq : a.station.pool = a.mailbox.address.pool
  outcome :
    a.stage = .requesting ∧
      ({ w.hub with exchange := (w.hub.exchange.register a.mailbox.address).1 } : Hub).Obtained
        a.station hub' ∨
    (∃ e, a.stage = .unstarted e) ∧ hub' = { w.hub with
      exchange := (w.hub.exchange.register a.mailbox.address).1.close a.mailbox }

/-- What a move comes to. -/
inductive Moved (w : World) (mv : Move) (w' : World) : Prop where
  | quiet (halike : w.hub.Alike w'.hub) (hsame : w'.acquisitions = w.acquisitions)
  | worked {id : StationId} (hmove : mv = .act (.work id)) (hworked : w.hub.Worked id w'.hub)
      (hsame : w'.acquisitions = w.acquisitions)
  | went {n : Nat} {a a' : Acquisition} (hmove : mv = .act (.proceed n))
      (ha : w.acquisitions[n]? = some a) (hwent : a.Went w.hub (w.isCancelled a) w'.hub a')
      (hset : w'.acquisitions = w.acquisitions.set n a')
  | aborted {n : Nat} {a : Acquisition} {x : Exchange} (hmove : mv = .abort n)
      (ha : w.acquisitions[n]? = some a) (hover : a.isOver = false)
      (hshut : Exchange.Shut a.mailbox w.hub.exchange x)
      (hhub : w'.hub = { w.hub with exchange := x })
      (hset : w'.acquisitions = w.acquisitions.set n { a with stage := .aborted })
  | came {a : Acquisition} (harrives : w.Arrives mv a w'.hub)
      (hlast : w'.acquisitions = w.acquisitions ++ [a])
  | told {id : StationId} {e : Envelope} (hmove : mv = .send id e.message ∨ mv = .ask id e.message)
      (hposted : w.hub.Posted id e w'.hub) (hsame : w'.acquisitions = w.acquisitions)
  | started {pool : PoolName} {options : PoolOptions} {id : StationId}
      (hmove : mv = .enlist pool options) (hpool : id.pool = pool)
      (hstarted : w.hub.Started id w'.hub) (hsame : w'.acquisitions = w.acquisitions)
  | mailed {x : Exchange} (hmails : w.Mails mv x) (hhub : w'.hub = { w.hub with exchange := x })
      (hsame : w'.acquisitions = w.acquisitions)

theorem Moved.nothing (w : World) (mv : Move) : Moved w mv w := .quiet (.refl w.hub) rfl

theorem ne_mailbox_of_not_owns {m : MailboxId} (hfree : w.owns m = false) :
    ∀ a ∈ w.acquisitions, m ≠ a.mailbox := by
  rintro a ha rfl
  rw [owns, List.any_eq_false] at hfree
  exact hfree a ha (decide_eq_true rfl)

theorem moved_act (h : w.hub.Sound) (action : Action) :
    (w.move (.act action)).hub.Sound ∧ Moved w (.act action) (w.move (.act action)) := by
  cases hperform : w.perform action with
  | none =>
    rw [move, hperform]
    exact ⟨h, .nothing w _⟩
  | some w' =>
    rw [move, hperform, Option.getD_some]
    cases action with
    | work id =>
      obtain ⟨hub, hwork, rfl⟩ := Option.map_eq_some_iff.mp hperform
      exact ⟨h.work hwork, .worked rfl (h.worked hwork) rfl⟩
    | expire id lease =>
      obtain ⟨hub, hfire, rfl⟩ := Option.map_eq_some_iff.mp hperform
      exact ⟨h.fire? hfire, .quiet (Hub.alike_fire? hfire) rfl⟩
    | ring alarm =>
      obtain ⟨a, ha, hring⟩ := Option.bind_eq_some_iff.mp hperform
      obtain ⟨u, hu, hring⟩ := Option.bind_eq_some_iff.mp hring
      rw [← Option.some.inj hring]
      exact ⟨h, .quiet (.refl w.hub) rfl⟩
    | proceed n =>
      obtain ⟨a, ha, hproceed⟩ := Option.bind_eq_some_iff.mp hperform
      obtain ⟨⟨hub, a'⟩, hstep, hproceed⟩ := Option.bind_eq_some_iff.mp hproceed
      rw [← Option.some.inj hproceed]
      obtain ⟨hwent, hsound⟩ := Acquisition.went_of_step? hstep
      exact ⟨hsound h, .went rfl ha hwent rfl⟩

theorem moved_acquire (h : w.hub.Sound) (client : Client) (resource : String)
    (leaseTimeout : Option Duration) (token : Option Nat) :
    (w.acquire client resource leaseTimeout token).hub.Sound ∧
      Moved w (.acquire client resource leaseTimeout token)
        (w.acquire client resource leaseTimeout token) := by
  have hregistered := h.withExchange
    (h.exchange.register ⟨⟨client.space, resource⟩, client.requester⟩)
  unfold acquire Acquisition.create
  dsimp only
  split
  case h_1 hub station hget =>
    obtain ⟨hsound, hpool, hobtained⟩ := hregistered.getOrStart hget
    refine ⟨hsound, .came ⟨⟨client, resource, leaseTimeout, rfl, rfl⟩, rfl, hpool, ?_⟩ rfl⟩
    exact Or.inl ⟨rfl, hobtained⟩
  case h_2 e hget =>
    refine ⟨h.withExchange ((h.exchange.register _).close _),
      .came ⟨⟨client, resource, leaseTimeout, rfl, rfl⟩, rfl, rfl, ?_⟩ rfl⟩
    exact Or.inr ⟨⟨e, rfl⟩, rfl⟩

theorem moved_abort (h : w.hub.Sound) (n : Nat) :
    (w.abort n).hub.Sound ∧ Moved w (.abort n) (w.abort n) := by
  unfold abort
  split
  case h_1 a ha =>
    unfold Acquisition.abort
    cases hover : a.isOver with
    | true =>
      obtain ⟨hn, hget⟩ := List.getElem?_eq_some_iff.mp ha
      have hsame : w.acquisitions.set n a = w.acquisitions := by
        rw [← hget, List.set_getElem_self]
      exact ⟨h, .quiet (.refl w.hub) hsame⟩
    | false =>
      exact ⟨h.withExchange (h.exchange.close _),
        .aborted rfl ha hover (Exchange.shut_close _ _) rfl rfl⟩
  case h_2 => exact ⟨h, .nothing w _⟩

theorem moved_send (h : w.hub.Sound) (id : StationId) (m : Message) :
    (w.move (.send id m)).hub.Sound ∧ Moved w (.send id m) (w.move (.send id m)) := by
  cases hsend : w.hub.send id m with
  | accepted hub =>
    rw [move, hsend]
    exact ⟨h.send hsend, .told (Or.inl rfl) (Hub.posted_send hsend) rfl⟩
  | full | refused =>
    rw [move, hsend]
    exact ⟨h, .nothing w _⟩

theorem moved_ask (h : w.hub.Sound) (id : StationId) (m : Message) :
    (w.move (.ask id m)).hub.Sound ∧ Moved w (.ask id m) (w.move (.ask id m)) := by
  cases hask : w.hub.ask id m with
  | accepted hub =>
    rw [move, hask]
    exact ⟨h.ask hask, .told (Or.inr rfl) (Hub.posted_ask hask) rfl⟩
  | full | refused =>
    rw [move, hask]
    exact ⟨h, .nothing w _⟩

theorem moved_enlist (h : w.hub.Sound) (pool : PoolName) (options : PoolOptions) :
    (w.move (.enlist pool options)).hub.Sound ∧
      Moved w (.enlist pool options) (w.move (.enlist pool options)) := by
  rw [move]
  split
  case h_1 hub id hget =>
    obtain ⟨hsound, hpool, hobtained⟩ := h.getOrStart hget
    refine ⟨hsound, ?_⟩
    cases hobtained with
    | listed hsame => exact .quiet (hsame ▸ .refl w.hub) rfl
    | started hstarted => exact .started rfl hpool hstarted rfl
  case h_2 => exact ⟨h, .nothing w _⟩

/-- What each move comes to. -/
theorem moved_move (h : w.hub.Sound) (mv : Move) :
    (w.move mv).hub.Sound ∧ Moved w mv (w.move mv) := by
  cases mv with
  | act action => exact moved_act h action
  | acquire client resource leaseTimeout token =>
    exact moved_acquire h client resource leaseTimeout token
  | abort n => exact moved_abort h n
  | send id m => exact moved_send h id m
  | ask id m => exact moved_ask h id m
  | enlist pool options => exact moved_enlist h pool options
  | stop id => exact ⟨h.stop id, .quiet (Hub.alike_stop w.hub id) rfl⟩
  | shutdown => exact ⟨h.shutdown.1, .quiet h.shutdown.2 rfl⟩
  | addToken | fire token | watch e timeout => exact ⟨h, .quiet (.refl w.hub) rfl⟩
  | pass clock | addHandle id | dropHandle id | spoil requester =>
    exact ⟨h.of_same rfl rfl rfl rfl h.exchange h.answer_lt,
      .quiet ⟨fun _ => rfl, rfl, rfl, rfl⟩ rfl⟩
  | register address =>
    exact ⟨h.withExchange (h.exchange.register address), .mailed (.register address) rfl rfl⟩
  | close m =>
    cases hfree : w.owns m with
    | true =>
      rw [move, if_pos hfree]
      exact ⟨h, .nothing w _⟩
    | false =>
      rw [move, if_neg (by simp [hfree])]
      exact ⟨h.withExchange (h.exchange.close m),
        .mailed (.close (ne_mailbox_of_not_owns hfree)) rfl rfl⟩
  | receive m =>
    cases hfree : w.owns m with
    | true =>
      rw [move, if_pos hfree]
      exact ⟨h, .nothing w _⟩
    | false =>
      rw [move, if_neg (by simp [hfree])]
      exact ⟨h.withExchange (h.exchange.receive m),
        .mailed (.receive (ne_mailbox_of_not_owns hfree)) rfl rfl⟩
  | deliver address r =>
    exact ⟨h.withExchange (h.exchange.post address r), .mailed (.deliver address r) rfl rfl⟩

/-! ### Acquisitions in a run -/

/-- The hub is sound, and every acquisition is in its place. -/
structure Sound (w : World) : Prop where
  hub : w.hub.Sound
  placed : ∀ a ∈ w.acquisitions, a.Placed w.hub.exchange
  distinct : (w.acquisitions.map Acquisition.mailbox).Nodup

/-- How one acquisition fares in a move. -/
inductive Fares (w : World) (mv : Move) (n : Nat) (a : Acquisition) (w' : World) : Prop where
  | rests (ha' : w'.acquisitions[n]? = some a)
      (hkept : Exchange.Kept a.mailbox w.hub.exchange w'.hub.exchange)
  | goes {a' : Acquisition} (hmove : mv = .act (.proceed n))
      (hwent : a.Went w.hub (w.isCancelled a) w'.hub a') (ha' : w'.acquisitions[n]? = some a')
  | stops (hmove : mv = .abort n) (hover : a.isOver = false)
      (hshut : Exchange.Shut a.mailbox w.hub.exchange w'.hub.exchange)
      (ha' : w'.acquisitions[n]? = some { a with stage := .aborted })

theorem Sound.mailbox_ne (h : w.Sound) {k : Nat} {b : Acquisition}
    (ha : w.acquisitions[n]? = some a) (hb : w.acquisitions[k]? = some b) (hne : k ≠ n) :
    b.mailbox ≠ a.mailbox := by
  intro heq
  obtain ⟨hn, rfl⟩ := List.getElem?_eq_some_iff.mp ha
  obtain ⟨hk, rfl⟩ := List.getElem?_eq_some_iff.mp hb
  rw [← List.length_map Acquisition.mailbox] at hn hk
  have hsame : (w.acquisitions.map Acquisition.mailbox)[k] =
      (w.acquisitions.map Acquisition.mailbox)[n] := by simpa using heq
  exact hne (h.distinct.getElem_inj_iff.mp hsame)

theorem Arrives.kept {m : MailboxId} {hub' : Hub} (harrives : w.Arrives mv a hub')
    (hlt : m.number < w.hub.exchange.registered m.address) :
    Exchange.Kept m w.hub.exchange hub'.exchange := by
  have hopened := Exchange.kept_register a.mailbox.address hlt
  rcases harrives.outcome with ⟨-, hobtained⟩ | ⟨-, rfl⟩
  · cases hobtained with
    | listed hsame => rwa [hsame]
    | started hstarted => rwa [hstarted.exchange_eq]
  · refine hopened.trans ((Exchange.shut_close _ _).kept ?_)
    rintro rfl
    exact absurd hlt (Nat.not_lt.mpr (Nat.le_of_eq harrives.number_eq.symm))

theorem Mails.kept {x : Exchange} (hmails : w.Mails mv x) (h : w.hub.Sound)
    (ha : a ∈ w.acquisitions) (hplaced : a.Placed w.hub.exchange) :
    Exchange.Kept a.mailbox w.hub.exchange x := by
  cases hmails with
  | register address => exact Exchange.kept_register address hplaced.lt
  | close hfree => exact (Exchange.shut_close _ _).kept (hfree a ha)
  | receive hfree => exact Exchange.kept_receive (hfree a ha)
  | deliver address r => exact h.exchange.kept_post address r

theorem Sound.fares (h : w.Sound) (hmoved : Moved w mv w') (ha : w.acquisitions[n]? = some a) :
    Fares w mv n a w' := by
  have hmem := List.mem_of_getElem? ha
  have hplaced := h.placed a hmem
  have hlt := (List.getElem?_eq_some_iff.mp ha).1
  cases hmoved with
  | quiet halike hsame =>
    exact .rests (hsame ▸ ha) (halike.exchange_eq ▸ .refl _ _)
  | worked hmove hworked hsame => exact .rests (hsame ▸ ha) (hworked.kept h.hub)
  | @went k b b' hmove hb hwent hset =>
    by_cases hk : k = n
    · subst hk
      rw [ha, Option.some.injEq] at hb
      subst hb
      refine .goes hmove hwent ?_
      rw [hset, List.getElem?_set_self hlt]
    · refine .rests ?_ (hwent.kept (h.mailbox_ne ha hb hk))
      rw [hset, List.getElem?_set_ne hk, ha]
  | @aborted k b x hmove hb hover hshut hhub hset =>
    by_cases hk : k = n
    · subst hk
      rw [ha, Option.some.injEq] at hb
      subst hb
      refine .stops hmove hover (hhub ▸ hshut) ?_
      rw [hset, List.getElem?_set_self hlt]
    · refine .rests ?_ (hhub ▸ hshut.kept (h.mailbox_ne ha hb hk))
      rw [hset, List.getElem?_set_ne hk, ha]
  | came harrives hlast =>
    refine .rests ?_ (harrives.kept hplaced.lt)
    rw [hlast, List.getElem?_append_left hlt, ha]
  | told hmove hposted hsame => exact .rests (hsame ▸ ha) (hposted.exchange_eq ▸ .refl _ _)
  | started hmove hpool hstarted hsame =>
    exact .rests (hsame ▸ ha) (hstarted.exchange_eq ▸ .refl _ _)
  | mailed hmails hhub hsame =>
    exact .rests (hsame ▸ ha) (hhub ▸ hmails.kept h.hub hmem hplaced)

/-- An acquisition goes on under its number, and rests once it is over. -/
theorem Fares.same (hfares : Fares w mv n a w') : ∃ a', w'.acquisitions[n]? = some a' ∧
    a'.mailbox = a.mailbox ∧ a'.station = a.station ∧ (a.isOver = true → a' = a) := by
  cases hfares with
  | rests ha' hkept => exact ⟨a, ha', rfl, rfl, fun _ => rfl⟩
  | goes hmove hwent ha' =>
    refine ⟨_, ha', hwent.same.1, hwent.same.2.1, fun hover => ?_⟩
    rw [hwent.not_isOver] at hover
    cases hover
  | stops hmove hopen hshut ha' =>
    refine ⟨_, ha', rfl, rfl, fun hover => ?_⟩
    rw [hopen] at hover
    cases hover

/-- An acquisition that ends when it takes a step ends by that step. -/
theorem Sound.went_of_isOver (h : w.Sound) (hmoved : Moved w (.act (.proceed n)) w')
    (ha : w.acquisitions[n]? = some a) (hopen : a.isOver = false) {a' : Acquisition}
    (ha' : w'.acquisitions[n]? = some a') (hover : a'.isOver = true) :
    ∃ cancelled, a.Went w.hub cancelled w'.hub a' := by
  cases h.fares hmoved ha with
  | goes hmove hwent hgoes =>
    rw [ha', Option.some.injEq] at hgoes
    exact ⟨_, hgoes ▸ hwent⟩
  | rests hrests hkept =>
    rw [ha', Option.some.injEq] at hrests
    rw [hrests, hopen] at hover
    cases hover
  | stops hmove => cases hmove

/-- An acquisition that was not there has just come. -/
theorem Moved.arrives (hmoved : Moved w mv w') (hnew : w.acquisitions[n]? = none)
    (ha : w'.acquisitions[n]? = some a) : w.Arrives mv a w'.hub ∧ n = w.acquisitions.length := by
  have hle := List.getElem?_eq_none_iff.mp hnew
  have hlt := (List.getElem?_eq_some_iff.mp ha).1
  cases hmoved with
  | came harrives hlast =>
    rw [hlast, List.length_append, List.length_singleton] at hlt
    have hn : n = w.acquisitions.length := by omega
    rw [hlast, hn, List.getElem?_concat_length, Option.some.injEq] at ha
    exact ⟨ha ▸ harrives, hn⟩
  | quiet halike hsame | worked hmove hworked hsame | told hmove hposted hsame
  | started hmove hpool hstarted hsame | mailed hmails hhub hsame =>
    rw [hsame] at hlt
    omega
  | went hmove hb hwent hset | aborted hmove hb hover hshut hhub hset =>
    rw [hset, List.length_set] at hlt
    omega

theorem Arrives.registered_register {hub' : Hub} (harrives : w.Arrives mv a hub') :
    (w.hub.exchange.register a.mailbox.address).1.registered a.mailbox.address =
      a.mailbox.number + 1 := by
  rw [Exchange.registered_register, if_pos rfl, harrives.number_eq]

theorem Arrives.box?_register {hub' : Hub} (harrives : w.Arrives mv a hub') :
    (w.hub.exchange.register a.mailbox.address).1.box? a.mailbox = some [] := by
  rw [Exchange.box?_register, if_pos]
  rw [← harrives.number_eq]

theorem Arrives.exchange_eq {hub' : Hub} (harrives : w.Arrives mv a hub')
    (hstage : a.stage = .requesting) :
    hub'.exchange = (w.hub.exchange.register a.mailbox.address).1 := by
  rcases harrives.outcome with ⟨-, hobtained⟩ | ⟨⟨e, hover⟩, -⟩
  · cases hobtained with
    | listed hsame => rw [hsame]
    | started hstarted => exact hstarted.exchange_eq
  · rw [hover] at hstage
    cases e <;> cases hstage

theorem Arrives.placed {hub' : Hub} (harrives : w.Arrives mv a hub') :
    a.Placed hub'.exchange := by
  have hregistered := harrives.registered_register
  rcases harrives.outcome with ⟨hstage, -⟩ | ⟨⟨e, hstage⟩, rfl⟩
  · refine ⟨harrives.pool_eq, ?_, ?_, fun hdisplaced => ?_⟩
    · rw [harrives.exchange_eq hstage, hregistered]
      exact Nat.lt_succ_self _
    · rw [harrives.exchange_eq hstage, harrives.box?_register, Acquisition.isOver, hstage]
      rfl
    · rw [hstage] at hdisplaced
      cases hdisplaced
  · refine ⟨harrives.pool_eq, ?_, ?_, fun hdisplaced => ?_⟩
    · rw [Exchange.registered_close, hregistered]
      exact Nat.lt_succ_self _
    · rw [Exchange.box?_close, if_pos rfl, Acquisition.isOver, hstage]
      cases e <;> rfl
    · rw [hstage] at hdisplaced
      cases e <;> cases hdisplaced

theorem Sound.placed_moved (h : w.Sound) (hmoved : Moved w mv w')
    (ha : w'.acquisitions[n]? = some a) : a.Placed w'.hub.exchange := by
  cases hold : w.acquisitions[n]? with
  | none => exact (hmoved.arrives hold ha).1.placed
  | some b =>
    have hplaced := h.placed b (List.mem_of_getElem? hold)
    cases h.fares hmoved hold with
    | rests ha' hkept =>
      rw [ha, Option.some.injEq] at ha'
      exact ha' ▸ hplaced.kept hkept
    | goes hmove hwent ha' =>
      rw [ha, Option.some.injEq] at ha'
      exact ha' ▸ hplaced.went hwent
    | stops hmove hover hshut ha' =>
      rw [ha, Option.some.injEq] at ha'
      subst ha'
      refine ⟨hplaced.pool_eq, Nat.lt_of_lt_of_eq hplaced.lt (hshut.registered_eq _).symm, ?_,
        fun hstage => nomatch hstage⟩
      rw [hshut.box_eq, if_pos rfl]
      rfl

theorem Moved.mailboxes (hmoved : Moved w mv w') :
    w'.acquisitions.map Acquisition.mailbox = w.acquisitions.map Acquisition.mailbox ∨
      ∃ a, w.Arrives mv a w'.hub ∧ w'.acquisitions.map Acquisition.mailbox =
        w.acquisitions.map Acquisition.mailbox ++ [a.mailbox] := by
  -- replacing an acquisition by one with the same mailbox changes no mailbox
  have hreplaced {k : Nat} {b b' : Acquisition} (hb : w.acquisitions[k]? = some b)
      (hsame : b'.mailbox = b.mailbox) :
      (w.acquisitions.set k b').map Acquisition.mailbox =
        w.acquisitions.map Acquisition.mailbox := by
    obtain ⟨hk, rfl⟩ := List.getElem?_eq_some_iff.mp hb
    rw [List.map_set, hsame, ← List.getElem_map Acquisition.mailbox (h := by simpa),
      List.set_getElem_self]
  cases hmoved with
  | came harrives hlast =>
    refine Or.inr ⟨_, harrives, ?_⟩
    rw [hlast, List.map_append]
    rfl
  | quiet halike hsame | worked hmove hworked hsame | told hmove hposted hsame
  | started hmove hpool hstarted hsame | mailed hmails hhub hsame =>
    rw [hsame]
    exact Or.inl rfl
  | went hmove hb hwent hset =>
    rw [hset]
    exact Or.inl (hreplaced hb hwent.same.1)
  | aborted hmove hb hover hshut hhub hset =>
    rw [hset]
    exact Or.inl (hreplaced hb rfl)

theorem sound_idle (clock : Clock) : (idle clock).Sound := by
  refine ⟨⟨Exchange.sound_idle, ?_, ?_, ?_, ?_, ?_, ?_⟩, ?_, ?_⟩ <;>
    simp [idle, Hub.idle, Hub.station?, Hub.desk?, Assoc.keys]

theorem Sound.move (h : w.Sound) (mv : Move) : (w.move mv).Sound := by
  obtain ⟨hhub, hmoved⟩ := moved_move h.hub mv
  refine ⟨hhub, fun a ha => ?_, ?_⟩
  · obtain ⟨n, hn⟩ := List.mem_iff_getElem?.mp ha
    exact h.placed_moved hmoved hn
  · rcases hmoved.mailboxes with hsame | ⟨a, harrives, hlast⟩
    · rw [hsame]
      exact h.distinct
    · rw [hlast]
      refine List.nodup_append.mpr ⟨h.distinct, List.nodup_singleton _, ?_⟩
      intro m hm m' hm' heq
      obtain ⟨b, hb, rfl⟩ := List.mem_map.mp hm
      rw [List.mem_singleton.mp hm'] at heq
      have hlt := (h.placed b hb).lt
      rw [heq, harrives.number_eq] at hlt
      exact Nat.lt_irrefl _ hlt

theorem Sound.run (h : w.Sound) (moves : List Move) : (w.run moves).Sound := by
  induction moves generalizing w with
  | nil => exact h
  | cons mv moves ih => exact ih (h.move mv)

/-- In a run, an acquisition goes on under its number until it is over. -/
theorem Sound.same_run (h : w.Sound) (moves : List Move) (ha : w.acquisitions[n]? = some a) :
    ∃ a', (w.run moves).acquisitions[n]? = some a' ∧ a'.mailbox = a.mailbox ∧
      a'.station = a.station ∧ (a.isOver = true → a' = a) := by
  induction moves generalizing w a with
  | nil => exact ⟨a, ha, rfl, rfl, fun _ => rfl⟩
  | cons mv moves ih =>
    obtain ⟨b, hb, hmailbox, hstation, hover⟩ := (h.fares (moved_move h.hub mv).2 ha).same
    obtain ⟨a', ha', hmailbox', hstation', hover'⟩ := ih (h.move mv) hb
    refine ⟨a', ha', hmailbox'.trans hmailbox, hstation'.trans hstation, fun hdone => ?_⟩
    have hb' := hover hdone
    subst hb'
    exact hover' hdone

/-- Whoever is not over at the end of a run was not over before. -/
theorem Sound.not_isOver (h : w.Sound) (moves : List Move) {a' : Acquisition}
    (ha : w.acquisitions[n]? = some a) (ha' : (w.run moves).acquisitions[n]? = some a')
    (hopen : a'.isOver = false) : a.isOver = false := by
  obtain ⟨b, hb, -, -, hsame⟩ := h.same_run moves ha
  rw [ha', Option.some.injEq] at hb
  subst hb
  by_contra hdone
  rw [hsame (by simpa using hdone)] at hopen
  exact hdone hopen

/-- The mailbox of an acquisition stays closed once it is over. -/
theorem Sound.box?_of_isOver (h : w.Sound) (moves : List Move) (ha : w.acquisitions[n]? = some a)
    (hover : a.isOver = true) : (w.run moves).hub.exchange.box? a.mailbox = none := by
  obtain ⟨a', ha', -, -, hsame⟩ := h.same_run moves ha
  rw [hsame hover] at ha'
  have hopen := ((h.run moves).placed a (List.mem_of_getElem? ha')).open_eq
  rw [hover] at hopen
  exact Option.not_isSome_iff_eq_none.mp (by simp [hopen])

end World

end LeasePool
