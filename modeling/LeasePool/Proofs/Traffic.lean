import LeasePool.Proofs.Moves

/-!
What a move does to one desk, to the answers and to one mailbox, whichever move it is: who has sent
an envelope, what a station has taken, where an answer and a response come from.
-/
namespace LeasePool.World

variable {w w' : World} {a : Acquisition} {mv : Move} {n : Nat}

/-! ### Desks and mailboxes in a run -/

/-- How an envelope came into an inbox. -/
inductive Sends (w : World) (mv : Move) (id : StationId) (e : Envelope) (w' : World) : Prop where
  | outsider (hmove : mv = .send id e.message ∨ mv = .ask id e.message)
      (hsame : w'.acquisitions = w.acquisitions)
  | acquisition {n : Nat} {a a' : Acquisition} (hmove : mv = .act (.proceed n))
      (ha : w.acquisitions[n]? = some a) (ha' : w'.acquisitions[n]? = some a')
      (hid : a.station = id)
      (hwent : a.Went w.hub (w.isCancelled a) w'.hub a')
      (htold : (∃ next, a.Tells w.hub.asked e next) ∨
        a.stage = .displaced ∧ e = ⟨.cancel a.requester, none⟩)

/-- A request comes from outside or from an acquisition that starts. -/
theorem Sends.of_request {id : StationId} {e : Envelope} {q : String} {priority : Int}
    (hsends : w.Sends mv id e w') (he : e.message = .request q priority) :
    (mv = .send id (.request q priority) ∨ mv = .ask id (.request q priority)) ∨
      ∃ n a, mv = .act (.proceed n) ∧ w.acquisitions[n]? = some a ∧ a.station = id ∧
        a.requester = q ∧ a.stage = .requesting := by
  cases hsends with
  | outsider hmove hsame =>
    rw [he] at hmove
    exact Or.inl hmove
  | @acquisition n a a' hmove ha ha' hid hwent htold =>
    rcases htold with ⟨next, htells⟩ | ⟨hstage, rfl⟩
    · cases htells with
      | request hstage => exact Or.inr ⟨n, a, hmove, ha, hid, (Message.request.inj he).1, hstage⟩
      | withdrawal | query | giveBack => cases he
    · cases he

/-- What a move does to the desk of a station that goes on. -/
inductive Serves (w : World) (mv : Move) (id : StationId) (w' : World) : Desk → Desk → Prop where
  | rests (d : Desk) : Serves w mv id w' d d
  | gets (d : Desk) {e : Envelope} (hsends : w.Sends mv id e w')
      (hquery : e.query = none ∨ e.query = some w.hub.asked) :
      Serves w mv id w' d { d with inbox := d.inbox ++ [e] }
  | takes {c c' : Coordinator} {inbox rest : List Envelope} {reach : String → Bool}
      {input : Coordinator.Input} {query : Option Nat} {effects : List Effect}
      (hmove : mv = .act (.work id)) (hc : c.Resting)
      (htakes : Station.Takes inbox input query rest)
      (hstep : c.Stepped w.hub.clock.still reach input effects c')
      (hexchange : w'.hub.exchange = w.hub.exchange.carry id.pool effects)
      (hanswers : ∀ q, (w'.hub.answers.get? q).isSome ↔
        (w.hub.answers.get? q).isSome ∨ query = some q ∧ ∃ a, .answer a ∈ effects) :
      Serves w mv id w' ⟨c.still, inbox⟩ ⟨c'.still, rest⟩

/-- The desk of a station that works was there before, or is a new one. -/
inductive Attends (w : World) (mv : Move) (id : StationId) (d' : Desk) (w' : World) : Prop where
  | serves {d : Desk} (hdesk : w.hub.desk? id = some d) (hserves : w.Serves mv id w' d d')
  | opens (hclosed : w.hub.desk? id = none) (hqueue : d'.coordinator.pool.queue = [])
      (hleases : d'.coordinator.leases = []) (hinbox : d'.inbox = [])

theorem Attends.of_started {hub : Hub} {id other : StationId} {d : Desk}
    (hstarted : hub.Started id w'.hub) (hdesk : hub.desk? = w.hub.desk?)
    (hd : w'.hub.desk? other = some d) : w.Attends mv other d w' := by
  obtain ⟨c, hqueue, hleases, hdesks⟩ := hstarted.desks
  have hclosed := hstarted.closed
  rw [hdesk] at hclosed
  rw [hdesks] at hd
  split at hd
  case isTrue heq =>
    subst heq
    rw [← Option.some.inj hd]
    exact .opens hclosed hqueue hleases rfl
  case isFalse => exact .serves (hdesk ▸ hd) (.rests d)

theorem Attends.of_posted {hub' : Hub} {id other : StationId} {e : Envelope} {d : Desk}
    (hposted : w.hub.Posted id e hub') (hd : hub'.desk? other = some d)
    (hsends : w.Sends mv id e w') : w.Attends mv other d w' := by
  obtain ⟨d₁, hd₁, hdesks⟩ := hposted.desks
  rw [hdesks] at hd
  split at hd
  case isTrue heq =>
    subst heq
    rw [← Option.some.inj hd]
    exact .serves hd₁ (.gets d₁ hsends (hposted.asked_eq.imp And.left And.left))
  case isFalse => exact .serves hd (.rests d)

theorem Moved.attends (hmoved : Moved w mv w') {id : StationId} {d : Desk}
    (hd : w'.hub.desk? id = some d) : w.Attends mv id d w' := by
  cases hmoved with
  | quiet halike hsame =>
    rw [halike.desk_eq] at hd
    exact .serves hd (.rests d)
  | @worked other hmove hworked hsame =>
    cases hworked with
    | handled hc hdesk htakes hstep hdesks hexchange hanswers hasked =>
      rw [hdesks] at hd
      split at hd
      case isTrue heq =>
        subst heq
        rw [← Option.some.inj hd]
        exact .serves hdesk (.takes hmove hc htakes hstep hexchange hanswers)
      case isFalse => exact .serves hd (.rests d)
    | halted hdesk hdesks hexchange hanswers hasked
    | crashed k hc hdesk htakes hstep hdesks hexchange hanswers hasked =>
      rw [hdesks] at hd
      split at hd
      · cases hd
      · exact .serves hd (.rests d)
  | @went n a a' hmove ha hwent hset =>
    have ha' : w'.acquisitions[n]? = some a' := by
      rw [hset, List.getElem?_set_self (List.getElem?_eq_some_iff.mp ha).1]
    have hwent' := hwent
    cases hwent with
    | tells htells hpost hgoes =>
      exact .of_posted hpost hd (.acquisition hmove ha ha' rfl hwent' (Or.inl ⟨_, htells⟩))
    | leaves hstage hpost hshut hhub hgoes =>
      rw [hhub] at hd
      exact .of_posted hpost hd (.acquisition hmove ha ha' rfl hwent' (Or.inr ⟨hstage, rfl⟩))
    | turns hturns hhub hgoes | finds hstage hbox hhub hgoes | skips hstage hbox hhub hgoes
    | ends hends hshut hhub hgoes =>
      rw [hhub] at hd
      exact .serves hd (.rests d)
  | aborted hmove ha hover hshut hhub hset | mailed hmails hhub hsame =>
    rw [hhub] at hd
    exact .serves hd (.rests d)
  | came harrives hlast =>
    rcases harrives.outcome with ⟨-, hobtained⟩ | ⟨-, hhub⟩
    · cases hobtained with
      | listed hsame =>
        rw [hsame] at hd
        exact .serves hd (.rests d)
      | started hstarted => exact .of_started hstarted rfl hd
    · rw [hhub] at hd
      exact .serves hd (.rests d)
  | told hmove hposted hsame => exact .of_posted hposted hd (.outsider hmove hsame)
  | started hmove hpool hstarted hsame => exact .of_started hstarted rfl hd

theorem Moved.serves (hmoved : Moved w mv w') {id : StationId} {d d' : Desk}
    (hd : w.hub.desk? id = some d) (hd' : w'.hub.desk? id = some d') :
    w.Serves mv id w' d d' := by
  cases hmoved.attends hd' with
  | serves hdesk hserves =>
    rw [hd, Option.some.injEq] at hdesk
    exact hdesk ▸ hserves
  | opens hclosed hqueue hleases hinbox =>
    rw [hd] at hclosed
    cases hclosed

/-- Answers stay, and a new one comes from a station that takes the query and goes on. -/
structure Replies (w : World) (mv : Move) (w' : World) : Prop where
  kept : ∀ q, (w.hub.answers.get? q).isSome → (w'.hub.answers.get? q).isSome
  taken : ∀ q, (w'.hub.answers.get? q).isSome → (w.hub.answers.get? q).isSome ∨
    ∃ id d d' e, mv = .act (.work id) ∧ w.hub.desk? id = some d ∧ w'.hub.desk? id = some d' ∧
      d.inbox = e :: d'.inbox ∧ e.query = some q

theorem Replies.of_eq (hanswers : w'.hub.answers = w.hub.answers) : w.Replies mv w' :=
  ⟨fun _ hq => hanswers ▸ hq, fun _ hq => Or.inl (hanswers ▸ hq)⟩

theorem Replies.of_worked {id : StationId} (hmove : mv = .act (.work id))
    (hworked : w.hub.Worked id w'.hub) : w.Replies mv w' := by
  cases hworked with
  | halted hdesk hdesks hexchange hanswers hasked => exact .of_eq hanswers
  | crashed k hc hdesk htakes hstep hdesks hexchange hanswers hasked => exact .of_eq hanswers
  | handled hc hdesk htakes hstep hdesks hexchange hanswers hasked =>
    refine ⟨fun q hq => (hanswers q).mpr (Or.inl hq), fun q hq => ?_⟩
    rcases (hanswers q).mp hq with hold | ⟨rfl, -⟩
    · exact Or.inl hold
    · obtain ⟨e, hinbox, heq⟩ := htakes.inbox_of_query
      have hdesk' := hdesks id
      rw [if_pos rfl] at hdesk'
      exact Or.inr ⟨id, _, _, e, hmove, hdesk, hdesk', hinbox, heq⟩

theorem Moved.replies (hmoved : Moved w mv w') : w.Replies mv w' := by
  cases hmoved with
  | quiet halike hsame => exact .of_eq halike.answers_eq
  | worked hmove hworked hsame => exact .of_worked hmove hworked
  | went hmove ha hwent hset =>
    cases hwent with
    | tells htells hpost hgoes => exact .of_eq hpost.answers_eq
    | leaves hstage hpost hshut hhub hgoes =>
      refine .of_eq ?_
      rw [hhub]
      exact hpost.answers_eq
    | turns hturns hhub hgoes | finds hstage hbox hhub hgoes | skips hstage hbox hhub hgoes
    | ends hends hshut hhub hgoes => exact .of_eq (by rw [hhub])
  | aborted hmove ha hover hshut hhub hset | mailed hmails hhub hsame =>
    exact .of_eq (by rw [hhub])
  | came harrives hlast =>
    rcases harrives.outcome with ⟨-, hobtained⟩ | ⟨-, hhub⟩
    · cases hobtained with
      | listed hsame => exact .of_eq (by rw [hsame])
      | started hstarted => exact .of_eq hstarted.answers_eq
    · exact .of_eq (by rw [hhub])
  | told hmove hposted hsame => exact .of_eq hposted.answers_eq
  | started hmove hpool hstarted hsame => exact .of_eq hstarted.answers_eq

/-- What a move does to the exchange. -/
inductive Trades (w : World) (mv : Move) (w' : World) : Prop where
  | rests (hsame : w'.hub.exchange = w.hub.exchange)
  | opens (address : Address) (hmove : mv.Opens address)
      (hopens : w'.hub.exchange = (w.hub.exchange.register address).1)
  | misses (address : Address) (hmove : mv.Opens address) (hmisses : w'.hub.exchange =
      (w.hub.exchange.register address).1.close (w.hub.exchange.register address).2)
  | shuts {m : MailboxId} (hshut : Exchange.Shut m w.hub.exchange w'.hub.exchange)
  | reads (m : MailboxId) (hreads : w'.hub.exchange = (w.hub.exchange.receive m).1)
  | serves {id : StationId} {c c' : Coordinator} {inbox rest : List Envelope}
      {reach : String → Bool} {input : Coordinator.Input} {query : Option Nat}
      {effects sent : List Effect} (hmove : mv = .act (.work id)) (hc : c.Resting)
      (hdesk : w.hub.desk? id = some ⟨c.still, inbox⟩)
      (htakes : Station.Takes inbox input query rest)
      (hstep : c.Stepped w.hub.clock.still reach input effects c') (hsent : sent.Sublist effects)
      (hserves : w'.hub.exchange = w.hub.exchange.carry id.pool sent)
      (hdesk' : ∀ d', w'.hub.desk? id = some d' → d' = ⟨c'.still, rest⟩)
  | delivers {address : Address} {r : Response} (hmove : mv = .deliver address r)
      (hdelivers : w'.hub.exchange = w.hub.exchange.post address r)

theorem Trades.of_worked {id : StationId} (hmove : mv = .act (.work id))
    (hworked : w.hub.Worked id w'.hub) : w.Trades mv w' := by
  cases hworked with
  | halted hdesk hdesks hexchange hanswers hasked => exact .rests hexchange
  | handled hc hdesk htakes hstep hdesks hexchange hanswers hasked =>
    refine .serves hmove hc hdesk htakes hstep (List.Sublist.refl _) hexchange fun d' hd' => ?_
    rw [hdesks, if_pos rfl] at hd'
    exact (Option.some.inj hd').symm
  | crashed k hc hdesk htakes hstep hdesks hexchange hanswers hasked =>
    refine .serves hmove hc hdesk htakes hstep (List.take_sublist k _) hexchange fun d' hd' => ?_
    rw [hdesks, if_pos rfl] at hd'
    cases hd'

theorem Trades.of_went {cancelled : Bool} {a' : Acquisition}
    (hwent : a.Went w.hub cancelled w'.hub a') : w.Trades mv w' := by
  cases hwent with
  | tells htells hpost hgoes => exact .rests hpost.exchange_eq
  | turns hturns hhub hgoes => exact .rests (hhub ▸ rfl)
  | finds hstage hread hhub hgoes | skips hstage hread hhub hgoes =>
    exact .reads a.mailbox (by rw [hhub])
  | ends hends hshut hhub hgoes =>
    refine .shuts (m := a.mailbox) ?_
    rw [hhub]
    exact hshut
  | leaves hstage hpost hshut hhub hgoes =>
    refine .shuts (m := a.mailbox) ?_
    rw [hhub, ← hpost.exchange_eq]
    exact hshut

theorem Trades.of_arrives (harrives : w.Arrives mv a w'.hub) : w.Trades mv w' := by
  have hmailbox : (w.hub.exchange.register a.mailbox.address).2 = a.mailbox := by
    rw [Exchange.register_snd, ← harrives.number_eq]
  have hmove : mv.Opens a.mailbox.address := by
    obtain ⟨client, resource, leaseTimeout, rfl, haddress⟩ := harrives.move_eq
    exact haddress.symm
  rcases harrives.outcome with ⟨-, hobtained⟩ | ⟨-, hhub⟩
  · cases hobtained with
    | listed hsame => exact .opens a.mailbox.address hmove (by rw [hsame])
    | started hstarted => exact .opens _ hmove hstarted.exchange_eq
  · refine .misses a.mailbox.address hmove ?_
    rw [hhub, hmailbox]

theorem Trades.of_mails {x : Exchange} (hmails : w.Mails mv x)
    (hexchange : w'.hub.exchange = x) : w.Trades mv w' := by
  cases hmails with
  | register b => exact .opens b rfl hexchange
  | close hfree => exact .shuts (hexchange ▸ Exchange.shut_close _ _)
  | receive hfree => exact .reads _ hexchange
  | deliver b r => exact .delivers rfl hexchange

theorem Moved.trades (hmoved : Moved w mv w') : w.Trades mv w' := by
  cases hmoved with
  | quiet halike hsame => exact .rests halike.exchange_eq
  | worked hmove hworked hsame => exact .of_worked hmove hworked
  | went hmove ha hwent hset => exact .of_went hwent
  | @aborted n b x hmove ha hover hshut hhub hset =>
    refine .shuts (m := b.mailbox) ?_
    rw [hhub]
    exact hshut
  | came harrives hlast => exact .of_arrives harrives
  | told hmove hposted hsame => exact .rests hposted.exchange_eq
  | started hmove hpool hstarted hsame => exact .rests hstarted.exchange_eq
  | mailed hmails hhub hsame => exact .of_mails hmails (congrArg Hub.exchange hhub)

/-- Mailboxes are only ever added. -/
theorem Trades.registered_le (htrades : w.Trades mv w') (h : w.hub.Sound)
    (address : Address) :
    w.hub.exchange.registered address ≤ w'.hub.exchange.registered address := by
  have hregister (b : Address) : w.hub.exchange.registered address ≤
      (w.hub.exchange.register b).1.registered address := by
    rw [Exchange.registered_register]
    split
    · exact Nat.le_succ _
    · exact Nat.le_refl _
  cases htrades with
  | rests hsame => exact Nat.le_of_eq (hsame ▸ rfl)
  | opens b hmove hopens => exact hopens ▸ hregister b
  | misses b hmove hmisses =>
    rw [hmisses, Exchange.registered_close]
    exact hregister b
  | shuts hshut => exact Nat.le_of_eq (hshut.registered_eq _).symm
  | reads m hreads => exact Nat.le_of_eq (hreads ▸ (Exchange.registered_receive _ _ _).symm)
  | serves hmove hc hdesk htakes hstep hsent hserves hdesk' =>
    exact Nat.le_of_eq (hserves ▸ ((h.exchange.carry _ _).registered_eq _).symm)
  | delivers hmove hdelivers =>
    exact Nat.le_of_eq (hdelivers ▸ (Exchange.registered_post _ _ _ _).symm)

/-- Only a new mailbox at an address counts there. -/
theorem Trades.registered_eq (htrades : w.Trades mv w') (h : w.hub.Sound)
    {address : Address} (hmv : ¬ mv.Opens address) :
    w'.hub.exchange.registered address = w.hub.exchange.registered address := by
  have hregister {b : Address} (hmove : mv.Opens b) :
      (w.hub.exchange.register b).1.registered address = w.hub.exchange.registered address := by
    rw [Exchange.registered_register, if_neg]
    rintro rfl
    exact hmv hmove
  cases htrades with
  | rests hsame => rw [hsame]
  | opens b hmove hopens => rw [hopens, hregister hmove]
  | misses b hmove hmisses => rw [hmisses, Exchange.registered_close, hregister hmove]
  | shuts hshut => exact hshut.registered_eq address
  | reads m hreads => rw [hreads, Exchange.registered_receive]
  | serves hmove hc hdesk htakes hstep hsent hserves hdesk' =>
    rw [hserves, (h.exchange.carry _ _).registered_eq]
  | delivers hmove hdelivers => rw [hdelivers, Exchange.registered_post]

/-- How an open mailbox came to hold what it holds. -/
inductive Fills (w : World) (mv : Move) (w' : World) (m : MailboxId) (rs' : List Response) :
    Prop where
  | rests (hbox : w.hub.exchange.box? m = some rs')
  | read {rs : List Response} (hbox : w.hub.exchange.box? m = some rs) (hread : rs' = rs.tail)
  | opens (hempty : rs' = [])
  | outsider {r : Response} {rs : List Response} (hmove : mv = .deliver m.address r)
      (hbox : w.hub.exchange.box? m = some rs) (hfills : rs' = rs ++ [r])
  | served {id : StationId} {c c' : Coordinator} {inbox rest : List Envelope}
      {reach : String → Bool} {input : Coordinator.Input} {query : Option Nat}
      {effects sent : List Effect} {rs : List Response} (hmove : mv = .act (.work id))
      (hc : c.Resting) (hdesk : w.hub.desk? id = some ⟨c.still, inbox⟩)
      (htakes : Station.Takes inbox input query rest)
      (hstep : c.Stepped w.hub.clock.still reach input effects c') (hsent : sent.Sublist effects)
      (hpool : id.pool = m.address.pool)
      (hnewest : w.hub.exchange.route? m.address = some m.number)
      (hbox : w.hub.exchange.box? m = some rs)
      (hfills : rs' = rs ++ sent.filterMap (Effect.responseTo? m.address.requester))
      (hdesk' : ∀ d', w'.hub.desk? id = some d' → d' = ⟨c'.still, rest⟩)

theorem Fills.of_register {m : MailboxId} {address : Address} {rs : List Response}
    (hbox : (w.hub.exchange.register address).1.box? m = some rs) : w.Fills mv w' m rs := by
  rw [Exchange.box?_register] at hbox
  split at hbox
  · exact .opens (Option.some.inj hbox).symm
  · exact .rests hbox

theorem Trades.fills {m : MailboxId} {rs : List Response} (htrades : w.Trades mv w')
    (h : w.hub.Sound) (hbox : w'.hub.exchange.box? m = some rs) : w.Fills mv w' m rs := by
  cases htrades with
  | rests hsame => exact .rests (hsame ▸ hbox)
  | opens b hmove hopens => exact .of_register (hopens ▸ hbox)
  | misses b hmove hmisses =>
    rw [hmisses, Exchange.box?_close] at hbox
    split at hbox
    · cases hbox
    · exact .of_register hbox
  | shuts hshut =>
    rw [hshut.box_eq] at hbox
    split at hbox
    · cases hbox
    · exact .rests hbox
  | reads m' hreads =>
    rw [hreads, Exchange.box?_receive] at hbox
    split at hbox
    · obtain ⟨rs', hbox', hread⟩ := Option.map_eq_some_iff.mp hbox
      exact .read hbox' hread.symm
    · exact .rests hbox
  | serves hmove hc hdesk htakes hstep hsent hserves hdesk' =>
    rw [hserves, (h.exchange.carry _ _).box_eq] at hbox
    split at hbox
    case isTrue hnewest =>
      obtain ⟨rs', hbox', hfills⟩ := Option.map_eq_some_iff.mp hbox
      exact .served hmove hc hdesk htakes hstep hsent hnewest.1.symm hnewest.2 hbox' hfills.symm
        hdesk'
    case isFalse => exact .rests hbox
  | delivers hmove hdelivers =>
    rw [hdelivers, h.exchange.box?_post] at hbox
    split at hbox
    case isTrue hnewest =>
      obtain ⟨rs', hbox', hfills⟩ := Option.map_eq_some_iff.mp hbox
      exact .outsider (hnewest.1 ▸ hmove) hbox' hfills.symm
    case isFalse => exact .rests hbox

/-- A mailbox that is the newest was so while it was open before. -/
theorem Moved.newest {m : MailboxId} (hmoved : Moved w mv w') (h : w.Sound) (h' : w'.Sound)
    (hopen : (w.hub.exchange.box? m).isSome)
    (hroute : w'.hub.exchange.route? m.address = some m.number) :
    w.hub.exchange.route? m.address = some m.number := by
  have hnewest := ((h'.hub.exchange.route_iff _ _).mp hroute).1
  have hle := hmoved.trades.registered_le h.hub m.address
  have hlt := h.hub.exchange.lt_registered m hopen
  exact (h.hub.exchange.route_iff _ _).mpr ⟨by omega, hopen⟩

end LeasePool.World
