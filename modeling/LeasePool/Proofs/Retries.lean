import LeasePool.Proofs.Traffic

/-!
Grants in mailboxes that nobody reads to the end. An acquisition that leaves as its mailbox was
replaced has never had anything there. One that is turned away leaves the rest of its mailbox
unread, and a grant is lost there if its request was under way while the withdrawal was handled; if
no request of the address is under way at such times, there is none.
-/
namespace LeasePool

/-- The stages in which an acquisition has not yet looked into its mailbox with success. -/
def Stage.isUnread : Stage → Bool
  | .requesting | .waiting | .displaced => true
  | _ => false

/-- Moves by which nobody sends a request of an address or delivers anything there in place of
those who do so. -/
def Move.IsHonest (address : Address) : Move → Prop
  | .send id (.request q _) | .ask id (.request q _) => (⟨id.pool, q⟩ : Address) ≠ address
  | .deliver other _ => other ≠ address
  | _ => True

instance (address : Address) : DecidablePred (Move.IsHonest address)
  | .send _ (.request ..) | .ask _ (.request ..) | .deliver _ _ =>
    inferInstanceAs (Decidable (_ ≠ address))
  | .send _ (.release ..) | .send _ (.resize _) | .send _ (.cancel _) | .send _ .status
  | .send _ .allocation | .ask _ (.release ..) | .ask _ (.resize _) | .ask _ (.cancel _)
  | .ask _ .status | .ask _ .allocation => isTrue trivial
  | .act _ | .acquire .. | .abort _ | .addToken | .fire _ | .watch .. | .pass _ | .enlist ..
  | .stop _ | .shutdown | .addHandle _ | .dropHandle _ | .spoil _ | .register _ | .close _
  | .receive _ => isTrue trivial

instance : (s : Stage) → Decidable (s = .requesting)
  | .requesting => isTrue rfl
  | .waiting | .withdrawing | .asking | .asked _ | .collecting | .returning .. | .displaced
  | .finished _ | .aborted => isFalse nofun

/-- The responses grant nothing. -/
def Response.GrantNothing (rs : List Response) : Prop :=
  ∀ channel lease r, .acquired channel lease r ∉ rs

namespace Acquisition

variable {hub hub' : Hub} {a a' : Acquisition} {cancelled : Bool}

/-- A step after which the mailbox is unread leaves it alone. -/
theorem Went.unread (hwent : Went hub a cancelled hub' a') (hstage : a'.stage.isUnread = true) :
    a.stage.isUnread = true ∧ hub'.exchange = hub.exchange := by
  cases hwent with
  | tells htells hpost hgoes =>
    refine ⟨?_, hpost.exchange_eq⟩
    rw [hgoes] at hstage
    cases htells with
    | request h => rw [h]; rfl
    | withdrawal | query | giveBack => cases hstage
  | turns hturns hhub hgoes =>
    refine ⟨?_, by rw [hhub]⟩
    rw [hgoes] at hstage
    cases hturns with
    | displaced h => rw [h]; rfl
    | alarmed | answered | unreturned => cases hstage
  | skips h hbox hhub hgoes =>
    rw [hgoes, h] at hstage
    cases hstage
  | finds h hbox hhub hgoes | ends h hshut hhub hgoes | leaves h hpost hshut hhub hgoes =>
    rw [hgoes] at hstage
    cases hstage

theorem Went.displaced_of_mailboxClosed {q : String} (hwent : Went hub a cancelled hub' a')
    (houtcome : a'.outcome? = some (.error (.mailboxClosed q))) : a.stage = .displaced := by
  rcases hwent.of_outcome houtcome with ⟨hends, -⟩ | ⟨hstage, -⟩
  · cases hends with
    | displaced hstage hclosed => exact hstage
  · exact hstage

theorem Went.box?_of_cancelled (hwent : Went hub a cancelled hub' a') (hstage : a.stage = .waiting)
    (houtcome : a'.outcome? = some (.error .cancelled)) :
    ∃ rest, hub.exchange.box? a.mailbox = some (.cancelled :: rest) := by
  rcases hwent.of_outcome houtcome with ⟨hends, -⟩ | ⟨hleft, -⟩
  · cases hends with
    | turnedAway hwaiting hunfired hbox => exact ⟨_, hbox⟩
    | unanswered hother | cleared hother =>
      rw [hstage] at hother
      cases hother
    | unheard hother =>
      rw [hstage] at hother
      rcases hother with hother | hother <;> cases hother
  · rw [hstage] at hleft
    cases hleft

theorem Went.not_requesting (hwent : Went hub a cancelled hub' a') :
    a'.stage ≠ .requesting := by
  cases hwent with
  | tells htells hpost hgoes =>
    rw [hgoes]
    cases htells <;> exact nofun
  | turns hturns hhub hgoes =>
    rw [hgoes]
    cases hturns <;> exact nofun
  | skips h hbox hhub hgoes =>
    rw [hgoes, h]
    exact nofun
  | finds h hbox hhub hgoes | ends h hshut hhub hgoes | leaves h hpost hshut hhub hgoes =>
    rw [hgoes]
    exact nofun

end Acquisition

namespace World

variable {w w' : World} {mv : Move} {n : Nat} {m : MailboxId} {a a' : Acquisition} {d d' : Desk}
  {address : Address}

/-! ### Unread mailboxes -/

/-- The mailbox of an acquisition has not been read, and grants nothing so far. -/
inductive Unread (w : World) (n : Nat) (m : MailboxId) : Prop where
  | ahead (hnew : w.hub.exchange.registered m.address ≤ m.number)
  | present {a : Acquisition} (ha : w.acquisitions[n]? = some a) (hmailbox : a.mailbox = m)
      (hunread : a.stage.isUnread = true)
      (hbox : ∀ rs, w.hub.exchange.box? m = some rs → Response.GrantNothing rs)

theorem Unread.grantNothing (h : w.Unread n m) (hw : w.Sound) {rs : List Response}
    (hbox : w.hub.exchange.box? m = some rs) : Response.GrantNothing rs := by
  cases h with
  | ahead hnew =>
    rw [hw.hub.exchange.not_registered hnew] at hbox
    cases hbox
  | present ha hmailbox hunread hnothing => exact hnothing rs hbox

/-- Nothing is taken out of an unread mailbox, so what it does not hold was not there before. -/
theorem Unread.of_moved (h : w'.Unread n m) (hw : w.Sound) (hmoved : Moved w mv w') :
    w.Unread n m := by
  cases h with
  | ahead hnew => exact .ahead (Nat.le_trans (hmoved.trades.registered_le hw.hub _) hnew)
  | @present a ha hmailbox hunread hnothing =>
    subst hmailbox
    cases hold : w.acquisitions[n]? with
    | none => exact .ahead (Nat.le_of_eq (hmoved.arrives hold ha).1.number_eq.symm)
    | some b =>
      cases hw.fares hmoved hold with
      | rests hrests hkept =>
        rw [ha, Option.some.injEq] at hrests
        subst hrests
        refine .present hold rfl hunread fun rs hbox channel lease r hmem => ?_
        obtain ⟨more, hmore, -⟩ := hkept.box
        rw [hbox] at hmore
        exact hnothing _ hmore channel lease r (List.mem_append_left more hmem)
      | goes hmove hwent hgoes =>
        rw [ha, Option.some.injEq] at hgoes
        subst hgoes
        obtain ⟨hbefore, hexchange⟩ := hwent.unread hunread
        exact .present hold hwent.same.1.symm hbefore (hexchange ▸ hnothing)
      | stops hmove hopen hshut hstops =>
        rw [ha, Option.some.injEq] at hstops
        rw [hstops] at hunread
        cases hunread

/-- Whoever leaves as its mailbox was replaced has found nothing there. -/
theorem Unread.of_mailboxClosed (hw : w.Sound) (ha : w.acquisitions[n]? = some a) {hub' : Hub}
    {cancelled : Bool} {q : String} (hwent : a.Went w.hub cancelled hub' a')
    (hclosed : a'.outcome? = some (.error (.mailboxClosed q))) : w.Unread n a.mailbox := by
  have hstage := hwent.displaced_of_mailboxClosed hclosed
  refine .present ha rfl (by rw [hstage]; rfl) fun rs hrs channel lease r hmem => ?_
  rw [((hw.placed a (List.mem_of_getElem? ha)).displaced hstage).1, Option.some.injEq] at hrs
  rw [← hrs] at hmem
  cases hmem

theorem Unread.of_run (hw : w.Sound) {moves : List Move} (h : (w.run moves).Unread n m) :
    w.Unread n m := by
  induction moves generalizing w with
  | nil => exact h
  | cons mv moves ih => exact (ih (hw.move mv) h).of_moved hw (moved_move hw.hub mv).2

/-! ### Withdrawals that meet no request -/

/-- No request of an address is under way to a station of its pool. -/
structure Unasked (w : World) (address : Address) (d : Desk) : Prop where
  not_requesting : ∀ b ∈ w.acquisitions, b.mailbox.address = address → b.stage ≠ .requesting
  not_request : ∀ priority, .request address.requester priority ∉ d.messages

instance (w : World) (address : Address) (d : Desk) : Decidable (w.Unasked address d) :=
  decidable_of_iff (_ ∧ _) ⟨fun h => ⟨h.1, h.2⟩, fun h => ⟨h.1, h.2⟩⟩

/-- If the move can end the wait of an address by a withdrawal, no request of it is under way. -/
def Calm (w : World) (address : Address) : Move → Prop
  | .act (.work id) => ∀ d ∈ w.hub.desk? id, id.pool = address.pool →
      d.coordinator.Waits address.requester →
        d.messages.head? = some (.cancel address.requester) → w.Unasked address d
  | _ => True

instance (w : World) (address : Address) : DecidablePred (w.Calm address)
  | .act (.work id) => inferInstanceAs (Decidable (∀ d ∈ w.hub.desk? id, _))
  | .act (.expire ..) | .act (.ring _) | .act (.proceed _) | .acquire .. | .abort _ | .addToken
  | .fire _ | .watch .. | .pass _ | .send .. | .ask .. | .enlist .. | .stop _ | .shutdown
  | .addHandle _ | .dropHandle _ | .spoil _ | .register _ | .close _ | .receive _
  | .deliver .. => isTrue trivial

/-- Through a run, no request of an address is under way when a withdrawal ends its wait. -/
def StaysCalm (w : World) (address : Address) : List Move → Prop
  | [] => True
  | mv :: moves => w.Calm address mv ∧ (w.move mv).StaysCalm address moves

instance decidableStaysCalm (w : World) (address : Address) :
    (moves : List Move) → Decidable (w.StaysCalm address moves)
  | [] => isTrue trivial
  | mv :: moves =>
    @instDecidableAnd _ _ inferInstance (decidableStaysCalm (w.move mv) address moves)

/-- Once a withdrawal has been answered to the newest mailbox of an address, nothing is under way
that could bring a grant there. -/
structure Settled (w : World) (address : Address) : Prop where
  not_requesting : ∀ b ∈ w.acquisitions, b.mailbox.address = address → b.stage ≠ .requesting
  clear : ∀ id d, id.pool = address.pool → w.hub.desk? id = some d → d.Clear address.requester

/-- In the mailboxes of an address, grants come before the answers to withdrawals. -/
structure Orderly (w : World) (address : Address) : Prop where
  settled : ∀ m rs, m.address = address → w.hub.exchange.route? address = some m.number →
    w.hub.exchange.box? m = some rs → .cancelled ∈ rs → w.Settled address
  last : ∀ m rs, m.address = address → w.hub.exchange.box? m = some rs →
    rs.Pairwise fun r r' => r = .cancelled → r' = .cancelled

theorem orderly_idle (clock : Clock) (address : Address) : (idle clock).Orderly address := by
  constructor <;> simp [idle, Hub.idle, Exchange.box?, Exchange.idle, Exchange.row,
    MailboxRow.unused]

theorem not_requesting_moved (hw : w.Sound) (hw' : w'.Sound) (hmoved : Moved w mv w')
    (hsame : w'.hub.exchange.registered address = w.hub.exchange.registered address)
    (h : ∀ b ∈ w.acquisitions, b.mailbox.address = address → b.stage ≠ .requesting) :
    ∀ b ∈ w'.acquisitions, b.mailbox.address = address → b.stage ≠ .requesting := by
  intro b hb haddress
  subst haddress
  obtain ⟨k, hk⟩ := List.mem_iff_getElem?.mp hb
  cases hold : w.acquisitions[k]? with
  | none =>
    have hlt := (hw'.placed b hb).lt
    rw [hsame, ← (hmoved.arrives hold hk).1.number_eq] at hlt
    exact absurd hlt (Nat.lt_irrefl _)
  | some b₀ =>
    cases hw.fares hmoved hold with
    | rests hrests hkept =>
      rw [hk, Option.some.injEq] at hrests
      subst hrests
      exact h b (List.mem_of_getElem? hold) rfl
    | goes hmove hwent hgoes =>
      rw [hk, Option.some.injEq] at hgoes
      subst hgoes
      exact hwent.not_requesting
    | stops hmove hopen hshut hstops =>
      rw [hk, Option.some.injEq] at hstops
      rw [hstops]
      exact nofun

theorem Settled.moved (h : w.Settled address) (hw : w.Sound) (hw' : w'.Sound)
    (hmoved : Moved w mv w') (hhonest : mv.IsHonest address)
    (hsame : w'.hub.exchange.registered address = w.hub.exchange.registered address) :
    w'.Settled address := by
  refine ⟨not_requesting_moved hw hw' hmoved hsame h.not_requesting, ?_⟩
  intro id d' hpool hd'
  cases hmoved.attends hd' with
  | opens hclosed hqueue hleases hinbox => exact Desk.clear_of_empty hqueue hinbox
  | serves hd hserves =>
    have hclear := h.clear id _ hpool hd
    cases hserves with
    | rests => exact hclear
    | takes hmove hc htakes hstep hexchange hanswers => exact hclear.takes htakes hstep
    | gets d hsends hquery =>
      refine hclear.concat fun priority he => ?_
      rcases hsends.of_request he with hmove | ⟨k, b, hmove, hb, hid, hrequester, hstage⟩
      · have hown : (⟨id.pool, address.requester⟩ : Address) = address := by rw [hpool]
        rcases hmove with rfl | rfl <;> exact absurd hown hhonest
      · have hmem := List.mem_of_getElem? hb
        have hplaced := (hw.placed b hmem).pool_eq
        rw [hid, hpool] at hplaced
        exact h.not_requesting b hmem (congr (congrArg Address.mk hplaced.symm) hrequester) hstage

/-- A withdrawal that meets no request settles its address. -/
theorem Unasked.settled {id : StationId} {c c' : Coordinator} {inbox rest : List Envelope}
    {reach : String → Bool} {query : Option Nat} {effects : List Effect}
    (h : w.Unasked address ⟨c.still, inbox⟩) (hw : w.Sound) (hw' : w'.Sound)
    (hmoved : Moved w mv w')
    (hsame : w'.hub.exchange.registered address = w.hub.exchange.registered address)
    (hpool : id.pool = address.pool) (hc : c.Resting)
    (hdesk : w.hub.desk? id = some ⟨c.still, inbox⟩)
    (htakes : Station.Takes inbox (.message (.cancel address.requester)) query rest)
    (hstep : c.Stepped w.hub.clock.still reach (.message (.cancel address.requester)) effects c')
    (hdesk' : ∀ d', w'.hub.desk? id = some d' → d' = ⟨c'.still, rest⟩) : w'.Settled address := by
  refine ⟨not_requesting_moved hw hw' hmoved hsame h.not_requesting, ?_⟩
  intro other d' hother hd'
  cases hmoved.attends hd' with
  | opens hclosed hqueue hleases hinbox => exact Desk.clear_of_empty hqueue hinbox
  | serves hd hserves =>
    have hid := hw.hub.sole other id (Option.isSome_of_eq_some hd)
      (Option.isSome_of_eq_some hdesk) (hother.trans hpool.symm)
    subst hid
    rw [hdesk' d' hd']
    refine ⟨(hstep.withdrawn hc.toSound).1, fun priority hmem => ?_⟩
    obtain ⟨e, he, hrequest⟩ := List.mem_map.mp hmem
    exact h.not_request priority (List.mem_map.mpr ⟨e, htakes.mem_of_rest he, hrequest⟩)

/-- Mailboxes of an address that stays with its newest one. -/
theorem registered_eq_of_newest (hw : w.Sound) (hw' : w'.Sound) (hmoved : Moved w mv w')
    (hopen : (w.hub.exchange.box? m).isSome)
    (hroute : w'.hub.exchange.route? m.address = some m.number) :
    w'.hub.exchange.registered m.address = w.hub.exchange.registered m.address := by
  have hnewest := ((hw'.hub.exchange.route_iff _ _).mp hroute).1
  have hle := hmoved.trades.registered_le hw.hub m.address
  have hlt := hw.hub.exchange.lt_registered m hopen
  omega

namespace Orderly

/-- Responses that come behind the answer to a withdrawal, or with it, are no grants. -/
theorem cancelled_of_served (h : w.Orderly m.address) {id : StationId} {c c' : Coordinator}
    {inbox rest : List Envelope} {reach : String → Bool} {input : Coordinator.Input}
    {query : Option Nat} {effects sent : List Effect} {rs : List Response} (hc : c.Resting)
    (hdesk : w.hub.desk? id = some ⟨c.still, inbox⟩)
    (htakes : Station.Takes inbox input query rest)
    (hstep : c.Stepped w.hub.clock.still reach input effects c') (hsent : sent.Sublist effects)
    (hpool : id.pool = m.address.pool)
    (hnewest : w.hub.exchange.route? m.address = some m.number)
    (hbox : w.hub.exchange.box? m = some rs)
    (hcancelled : .cancelled ∈ rs ++ sent.filterMap (Effect.responseTo? m.address.requester)) :
    ∀ r ∈ sent.filterMap (Effect.responseTo? m.address.requester), r = .cancelled := by
  intro r hr
  cases r with
  | cancelled => rfl
  | acquired channel lease resource =>
    have hdelivered := hsent.subset (Effect.mem_responses.mp hr)
    exfalso
    rcases List.mem_append.mp hcancelled with hbefore | hnow
    · have hclear := (h.settled m rs rfl hnewest hbox hbefore).clear id _ hpool hdesk
      rcases hstep.waits_of_acquired hdelivered with hwaits | ⟨priority, rfl⟩
      · exact hclear.not_waits hwaits
      · obtain ⟨e, he, hrequest⟩ := htakes.mem_of_message
        exact hclear.not_request priority (List.mem_map.mpr ⟨e, he, hrequest⟩)
    · obtain ⟨rfl, -⟩ := hstep.cancelled (hsent.subset (Effect.mem_responses.mp hnow))
      exact (hstep.withdrawn hc.toSound).2 _ _ _ _ hdelivered

theorem last_moved (h : w.Orderly m.address) (hw : w.Sound) (hmoved : Moved w mv w')
    (hhonest : mv.IsHonest m.address) {rs : List Response}
    (hbox : w'.hub.exchange.box? m = some rs) :
    rs.Pairwise fun r r' => r = .cancelled → r' = .cancelled := by
  cases hmoved.trades.fills hw.hub hbox with
  | rests hold => exact h.last m rs rfl hold
  | read hold hread =>
    rw [hread]
    exact (h.last m _ rfl hold).tail
  | opens hempty =>
    rw [hempty]
    exact List.Pairwise.nil
  | outsider hmove hold hfills =>
    rw [hmove] at hhonest
    exact absurd rfl hhonest
  | served hmove hc hdesk htakes hstep hsent hpool hnewest hold hfills hdesk' =>
    have hnew := fun hcancelled =>
      h.cancelled_of_served hc hdesk htakes hstep hsent hpool hnewest hold hcancelled
    rw [hfills, List.pairwise_append]
    refine ⟨h.last m _ rfl hold, List.pairwise_of_forall_mem_list ?_, ?_⟩
    · rintro r hr r' hr' rfl
      exact hnew (List.mem_append_right _ hr) r' hr'
    · rintro r hr r' hr' rfl
      exact hnew (List.mem_append_left _ hr) r' hr'

theorem settled_moved (h : w.Orderly m.address) (hw : w.Sound) (hw' : w'.Sound)
    (hmoved : Moved w mv w') (hhonest : mv.IsHonest m.address) (hcalm : w.Calm m.address mv)
    (hroute : w'.hub.exchange.route? m.address = some m.number) {rs : List Response}
    (hbox : w'.hub.exchange.box? m = some rs) (hmem : .cancelled ∈ rs) :
    w'.Settled m.address := by
  -- while the mailbox is open and the newest, nothing new starts at its address
  have hstill {rs₀ : List Response} (hold : w.hub.exchange.box? m = some rs₀) :=
    registered_eq_of_newest hw hw' hmoved (Option.isSome_of_eq_some hold) hroute
  have hbefore {rs₀ : List Response} (hold : w.hub.exchange.box? m = some rs₀)
      (hmem₀ : .cancelled ∈ rs₀) : w'.Settled m.address := by
    have hnewest := hmoved.newest hw hw' (Option.isSome_of_eq_some hold) hroute
    exact (h.settled m rs₀ rfl hnewest hold hmem₀).moved hw hw' hmoved hhonest (hstill hold)
  cases hmoved.trades.fills hw.hub hbox with
  | rests hold => exact hbefore hold hmem
  | read hold hread =>
    rw [hread] at hmem
    exact hbefore hold (List.mem_of_mem_tail hmem)
  | opens hempty =>
    rw [hempty] at hmem
    cases hmem
  | outsider hmove hold hfills =>
    rw [hmove] at hhonest
    exact absurd rfl hhonest
  | served hmove hc hdesk htakes hstep hsent hpool hnewest hold hfills hdesk' =>
    rw [hfills] at hmem
    rcases List.mem_append.mp hmem with hearlier | hnow
    · exact hbefore hold hearlier
    · obtain ⟨rfl, hwaits⟩ := hstep.cancelled (hsent.subset (Effect.mem_responses.mp hnow))
      obtain ⟨e, hinbox, he⟩ := htakes.inbox_of_message
      subst hmove hinbox
      have hunasked := hcalm _ hdesk hpool hwaits (congrArg some he)
      exact hunasked.settled hw hw' hmoved (hstill hold) hpool hc hdesk htakes hstep hdesk'

theorem moved (h : w.Orderly address) (hw : w.Sound) (hw' : w'.Sound) (hmoved : Moved w mv w')
    (hhonest : mv.IsHonest address) (hcalm : w.Calm address mv) : w'.Orderly address := by
  constructor
  · rintro m rs rfl hroute hbox hmem
    exact h.settled_moved hw hw' hmoved hhonest hcalm hroute hbox hmem
  · rintro m rs rfl hbox
    exact h.last_moved hw hmoved hhonest hbox

theorem run (h : w.Orderly address) (hw : w.Sound) {moves : List Move}
    (hhonest : ∀ mv ∈ moves, mv.IsHonest address) (hcalm : w.StaysCalm address moves) :
    (w.run moves).Orderly address := by
  induction moves generalizing w with
  | nil => exact h
  | cons mv moves ih =>
    have hmoved := (moved_move hw.hub mv).2
    exact ih (h.moved hw (hw.move mv) hmoved (hhonest mv List.mem_cons_self) hcalm.1) (hw.move mv)
      (fun mv' hmv' => hhonest mv' (List.mem_cons_of_mem mv hmv')) hcalm.2

/-- Whoever is turned away has no grant behind the answer that it reads. -/
theorem unread (h : w.Orderly a.mailbox.address) (ha : w.acquisitions[n]? = some a) {hub' : Hub}
    {cancelled : Bool} (hwent : a.Went w.hub cancelled hub' a') (hstage : a.stage = .waiting)
    (hcancelled : a'.outcome? = some (.error .cancelled)) : w.Unread n a.mailbox := by
  obtain ⟨rest, hrest⟩ := hwent.box?_of_cancelled hstage hcancelled
  refine .present ha rfl (by rw [hstage]; rfl) fun rs hrs channel lease r hmem => ?_
  rw [hrest, Option.some.injEq] at hrs
  subst hrs
  rcases List.mem_cons.mp hmem with hhead | hlater
  · cases hhead
  · cases (List.pairwise_cons.mp (h.last _ _ rfl hrest)).1 _ hlater rfl

end Orderly

/-- An acquisition that has left as its mailbox was replaced was never granted anything there. The
same holds for one that was turned away, if no request of its address was under way whenever a
withdrawal ended its wait. -/
theorem run_grantNothing (clock : Clock) (before after : List Move) (n : Nat)
    {a a' : Acquisition} (ha : ((idle clock).run before).acquisitions[n]? = some a)
    (hunfinished : a.isOver = false)
    (ha' : (((idle clock).run before).move (.act (.proceed n))).acquisitions[n]? = some a')
    (hended : a'.outcome? = some (.error (.mailboxClosed a.requester)) ∨
      a.stage = .waiting ∧ a'.outcome? = some (.error .cancelled) ∧
        (∀ mv ∈ before, mv.IsHonest a.mailbox.address) ∧
        (idle clock).StaysCalm a.mailbox.address before)
    (past : List Move) (hpast : past <+: before ++ .act (.proceed n) :: after)
    (rs : List Response)
    (hbox : ((idle clock).run past).hub.exchange.box? a.mailbox = some rs) :
    Response.GrantNothing rs := by
  have hidle := sound_idle clock
  have hw := hidle.run before
  have hmoved := (moved_move hw.hub (.act (.proceed n))).2
  have hover : a'.isOver = true :=
    hended.elim (fun h => Acquisition.isOver_of_outcome h)
      fun h => Acquisition.isOver_of_outcome h.2.1
  obtain ⟨cancelled, hwent⟩ := hw.went_of_isOver hmoved ha hunfinished ha' hover
  have hunread : ((idle clock).run before).Unread n a.mailbox := by
    rcases hended with hclosed | ⟨hstage, hcancelled, hhonest, hcalm⟩
    · exact .of_mailboxClosed hw ha hwent hclosed
    · exact ((orderly_idle clock _).run hidle hhonest hcalm).unread ha hwent hstage hcancelled
  rcases List.prefix_or_prefix_of_prefix hpast (List.prefix_append before _) with hearly | hlate
  · obtain ⟨future, rfl⟩ := hearly
    rw [run_append] at hunread
    exact (hunread.of_run (hidle.run past)).grantNothing (hidle.run past) hbox
  · obtain ⟨later, rfl⟩ := hlate
    rw [run_append] at hbox
    cases later with
    | nil => exact hunread.grantNothing hw hbox
    | cons mv later =>
      obtain ⟨rfl, -⟩ := List.cons_prefix_cons.mp ((List.prefix_append_right_inj before).mp hpast)
      have hclosed := (hw.move (.act (.proceed n))).box?_of_isOver later ha' hover
      rw [hwent.same.1] at hclosed
      rw [run_cons, hclosed] at hbox
      cases hbox

/-- One slot is held; somebody waits for it and acquires it again. Both requests are handled, and
the first of the two acquisitions has found its mailbox replaced. -/
def replaced : List Move :=
  let station : StationId := ⟨⟨"lab", "gpu"⟩, 0⟩
  let holder : Client := ⟨"lab", "w1", 0, ⟨1, none, .plain, 10⟩⟩
  let waiter : Client := { holder with requester := "w2" }
  [.acquire holder "gpu" none none, .act (.proceed 0), .act (.work station), .act (.proceed 0),
    .acquire waiter "gpu" none none, .act (.proceed 1), .act (.work station),
    .acquire waiter "gpu" none none, .act (.proceed 2), .act (.work station), .act (.proceed 1)]

/-- The first of the two leaves, and the second is turned away by its withdrawal. -/
def turnedAway : List Move :=
  replaced ++ [.act (.proceed 1), .act (.work ⟨⟨"lab", "gpu"⟩, 0⟩)]

/-- The first of the two leaves and is tried again, while the holder gives its slot back. The
station answers the withdrawal, takes the slot back and grants it to the third request, and the
third acquisition reads only the first of the two responses. -/
def retried : List Move :=
  let station : StationId := ⟨⟨"lab", "gpu"⟩, 0⟩
  replaced ++ [.act (.proceed 1), .send station (.release (releaseChannel "w1") (some 0)),
    .acquire ⟨"lab", "w2", 0, ⟨1, none, .plain, 10⟩⟩ "gpu" none none, .act (.proceed 3),
    .act (.work station), .act (.work station), .act (.work station), .act (.proceed 3),
    .act (.proceed 2), .act (.proceed 2), .act (.work station)]

/-- A grant is lost in the mailbox of an acquisition that has been turned away: its lease goes on
after everything that was sent has been handled. -/
theorem run_retried_grant_lost :
    ((idle default).run retried).acquisitions[3]?.bind Acquisition.outcome? =
        some (.error .cancelled) ∧
      (∃ r, ((idle default).run (retried.take 18)).hub.exchange.box? ⟨⟨⟨"lab", "gpu"⟩, "w2"⟩, 2⟩ =
        some [.cancelled, .acquired (releaseChannel "w2") 1 r]) ∧
      ((idle default).run retried).acquisitions[3]?.map Acquisition.mailbox =
        some ⟨⟨⟨"lab", "gpu"⟩, "w2"⟩, 2⟩ ∧
      ((idle default).run retried).acquisitions.all Acquisition.isOver = true ∧
      (((idle default).run retried).hub.desk? ⟨⟨"lab", "gpu"⟩, 0⟩).map
          (fun d => (d.coordinator.leases, d.inbox)) =
        some ([(releaseChannel "w2", ⟨1, 0, "w2", 0⟩)], []) :=
  ⟨rfl, ⟨_, rfl⟩, rfl, rfl, rfl⟩

/-- Neither of the two acquisitions of the waiter was ever granted anything. -/
theorem run_grantNothing_replaced :
    (∀ past, past <+: replaced ++ [.act (.proceed 1)] → ∀ rs,
        ((idle default).run past).hub.exchange.box? ⟨⟨⟨"lab", "gpu"⟩, "w2"⟩, 0⟩ = some rs →
          Response.GrantNothing rs) ∧
      ∀ past, past <+: turnedAway ++ [.act (.proceed 2)] → ∀ rs,
        ((idle default).run past).hub.exchange.box? ⟨⟨⟨"lab", "gpu"⟩, "w2"⟩, 1⟩ = some rs →
          Response.GrantNothing rs :=
  ⟨run_grantNothing default replaced [] 1 rfl rfl rfl (Or.inl rfl),
    run_grantNothing default turnedAway [] 2 rfl rfl rfl
      (Or.inr ⟨rfl, rfl, by decide, by decide⟩)⟩

end World

end LeasePool
