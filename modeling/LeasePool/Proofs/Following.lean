import LeasePool.Proofs.Traffic

/-!
One acquisition at an address at a time, with its station at work. Its grants and those of nobody
else come to its mailbox, so that it knows of every lease that was granted while it was there. Once
its token has fired, it withdraws and asks; when the answer is there, its requester is not waiting
and cannot get another grant, and the grants in the mailbox are all that there are to give back.
-/
namespace LeasePool

/-- Moves that leave an address to its acquisition: nobody else acquires there or opens a mailbox,
and nobody sends its requests or delivers grants in place of a station. -/
def Move.Spares (address : Address) : Move → Prop
  | .acquire client resource _ _ =>
    (⟨⟨client.space, resource⟩, client.requester⟩ : Address) ≠ address
  | .register other => other ≠ address
  | .send id (.request q _) | .ask id (.request q _) => (⟨id.pool, q⟩ : Address) ≠ address
  | .deliver other (.acquired _ _ _) => other ≠ address
  | _ => True

instance (address : Address) : DecidablePred (Move.Spares address)
  | .acquire .. | .register _ => inferInstanceAs (Decidable (_ ≠ address))
  | .send _ m | .ask _ m => by cases m <;> unfold Move.Spares <;> infer_instance
  | .deliver _ r => by cases r <;> unfold Move.Spares <;> infer_instance
  | .act _ | .abort _ | .addToken | .fire _ | .watch .. | .pass _ | .enlist .. | .stop _
  | .shutdown | .addHandle _ | .dropHandle _ | .spoil _ | .close _ | .receive _ => isTrue trivial

theorem Move.Spares.not_opens {mv : Move} {address : Address} (h : mv.Spares address) :
    ¬ mv.Opens address := by
  cases mv with
  | acquire | register => exact h
  | _ => exact id

namespace World

variable {w w' : World} {mv : Move} {n first : Nat} {a a' : Acquisition} {d d' : Desk}

/-! ### An address that is left alone -/

/-- Whoever sends a request of an address has a requesting acquisition there. -/
theorem Sends.exists_requesting {id : StationId} {e : Envelope} {address : Address}
    {priority : Int} (hsends : w.Sends mv id e w') (hw : w.Sound) (hspares : mv.Spares address)
    (hpool : id.pool = address.pool) (he : e.message = .request address.requester priority) :
    ∃ (k : Nat) (b : Acquisition), w.acquisitions[k]? = some b ∧ b.mailbox.address = address ∧
      b.stage = .requesting := by
  obtain ⟨pool, requester⟩ := address
  rcases hsends.of_request he with hmove | ⟨k, b, hmove, hb, hid, hrequester, hstage⟩
  · have hown : (⟨id.pool, requester⟩ : Address) = ⟨pool, requester⟩ := by rw [hpool]
    rcases hmove with rfl | rfl <;> exact absurd hown hspares
  · refine ⟨k, b, hb, ?_, hstage⟩
    have hplaced := (hw.placed b (List.mem_of_getElem? hb)).pool_eq
    rw [hid, hpool] at hplaced
    exact congr (congrArg Address.mk hplaced.symm) hrequester

/-- An acquisition of the address was there before, and it rests if it was over. -/
theorem Moved.exists_before {address : Address} {k : Nat} {b : Acquisition}
    (hmoved : Moved w mv w') (hw : w.Sound) (hspares : mv.Spares address)
    (hb : w'.acquisitions[k]? = some b) (haddress : b.mailbox.address = address) :
    ∃ b₀, w.acquisitions[k]? = some b₀ ∧ b₀.mailbox.address = address ∧
      (b₀.isOver = true → b = b₀) := by
  cases hold : w.acquisitions[k]? with
  | none =>
    obtain ⟨client, resource, leaseTimeout, rfl, hown⟩ := (hmoved.arrives hold hb).1.move_eq
    exact absurd (hown.symm.trans haddress) hspares
  | some b₀ =>
    obtain ⟨b', hb', hmailbox, -, hover⟩ := (hw.fares hmoved hold).same
    rw [hb, Option.some.injEq] at hb'
    subst hb'
    exact ⟨b₀, rfl, hmailbox ▸ haddress, hover⟩

/-- No acquisition of an address is under way. -/
def Vacant (w : World) (address : Address) : Prop :=
  ∀ b ∈ w.acquisitions, b.mailbox.address = address → b.isOver = true

instance (w : World) (address : Address) : Decidable (w.Vacant address) :=
  inferInstanceAs (Decidable (∀ b ∈ w.acquisitions, _))

theorem Vacant.moved {address : Address} (h : w.Vacant address) (hw : w.Sound)
    (hmoved : Moved w mv w') (hspares : mv.Spares address) : w'.Vacant address := by
  intro b hb haddress
  obtain ⟨k, hk⟩ := List.mem_iff_getElem?.mp hb
  obtain ⟨b₀, hb₀, hsame, hover⟩ := hmoved.exists_before hw hspares hk haddress
  have hdone := h b₀ (List.mem_of_getElem? hb₀) hsame
  rw [hover hdone]
  exact hdone

/-- While an address is vacant and left alone, its requester does not come back to the station. -/
theorem Vacant.clear_moved {id : StationId} {address : Address} (h : w.Vacant address)
    (hw : w.Sound) (hmoved : Moved w mv w') (hspares : mv.Spares address)
    (hpool : id.pool = address.pool) (hd : w.hub.desk? id = some d)
    (hd' : w'.hub.desk? id = some d') (hclear : d.Clear address.requester) :
    d'.Clear address.requester := by
  cases hmoved.serves hd hd' with
  | rests => exact hclear
  | takes hmove hc htakes hstep hexchange hanswers => exact hclear.takes htakes hstep
  | gets d hsends hquery =>
    refine hclear.concat fun priority he => ?_
    obtain ⟨k, b, hb, haddress, hstage⟩ := hsends.exists_requesting hw hspares hpool he
    have hover := h b (List.mem_of_getElem? hb) haddress
    rw [Acquisition.isOver, hstage] at hover
    cases hover

/-! ### One acquisition at its address -/

/-- A lease of an acquisition is announced in its mailbox, or is to be returned by it, or its return
is on the way. -/
inductive Traced (w : World) (a : Acquisition) (d : Desk) (lease : Nat) : Prop where
  | announced {rs : List Response} {r : Resource}
      (hbox : w.hub.exchange.box? a.mailbox = some rs)
      (hmem : .acquired (releaseChannel a.requester) lease r ∈ rs)
  | collected (hstage : a.stage = .returning (releaseChannel a.requester) lease)
  | returned (hmem : .release (releaseChannel a.requester) (some lease) ∈ d.messages)

/-- What the query of an acquisition tells. While it waits in the inbox, the requester cannot be
waiting when its turn comes. -/
inductive Queried (w : World) (a : Acquisition) (d : Desk) (query : Nat) : Prop where
  | pending (before behind : List Envelope)
      (hinbox : d.inbox = before ++ ⟨.status, some query⟩ :: behind)
      (hbefore : ¬ d.coordinator.MayWait a.requester (before.map Envelope.message))
      (hbehind : ∀ priority, .request a.requester priority ∉ behind.map Envelope.message)
      (hfirst : ∀ e ∈ before, e.query ≠ some query)
      (hsole : ∀ other d', other ≠ a.station → w.hub.desk? other = some d' →
        ∀ e ∈ d'.inbox, e.query ≠ some query)
      (hanswer : w.hub.answers.get? query = none)
  | answered (hclear : d.Clear a.requester) (hanswer : (w.hub.answers.get? query).isSome)

/-- How far the withdrawal of an acquisition has come. -/
def Withdraws (w : World) (a : Acquisition) (d : Desk) : Prop :=
  match a.stage with
  | .asking => ¬ d.coordinator.MayWait a.requester d.messages
  | .asked query => w.Queried a d query
  | .collecting | .returning .. => d.Clear a.requester
  | _ => True

/-- An acquisition under way is alone at its address, and its station works. The leases of its
requester are numbered from `first` on since it started. -/
structure Follows (w : World) (n first : Nat) (a : Acquisition) (d : Desk) : Prop where
  acquisition : w.acquisitions[n]? = some a
  unfinished : a.isOver = false
  desk : w.hub.desk? a.station = some d
  alone : ∀ k b, w.acquisitions[k]? = some b → k ≠ n →
    b.mailbox.address = a.mailbox.address → b.isOver = true
  newest : w.hub.exchange.registered a.mailbox.address = a.mailbox.number + 1
  first_le : first ≤ d.coordinator.nextLease
  announced : ∀ rs channel lease r, w.hub.exchange.box? a.mailbox = some rs →
    .acquired channel lease r ∈ rs → channel = releaseChannel a.requester ∧ first ≤ lease
  collected : ∀ channel lease, a.stage = .returning channel lease →
    channel = releaseChannel a.requester ∧ first ≤ lease
  traced : ∀ l, d.coordinator.leases.get? (releaseChannel a.requester) = some l →
    first ≤ l.id → w.Traced a d l.id
  withdraws : w.Withdraws a d

namespace Follows

theorem placed (h : w.Follows n first a d) (hw : w.Sound) : a.Placed w.hub.exchange :=
  hw.placed a (List.mem_of_getElem? h.acquisition)

theorem exists_box (h : w.Follows n first a d) (hw : w.Sound) :
    ∃ rs, w.hub.exchange.box? a.mailbox = some rs := by
  have hopen := (h.placed hw).open_eq
  rw [h.unfinished] at hopen
  exact Option.isSome_iff_exists.mp hopen

theorem route_eq (h : w.Follows n first a d) (hw : w.Sound) :
    w.hub.exchange.route? a.mailbox.address = some a.mailbox.number := by
  obtain ⟨rs, hbox⟩ := h.exists_box hw
  exact (hw.hub.exchange.route_iff _ _).mpr ⟨h.newest.symm, Option.isSome_of_eq_some hbox⟩

/-- The only station of the pool that works is the one of the acquisition. -/
theorem eq_station (h : w.Follows n first a d) (hw : w.Sound) {id : StationId} {d₁ : Desk}
    (hdesk : w.hub.desk? id = some d₁) (hpool : id.pool = a.mailbox.address.pool) :
    id = a.station :=
  hw.hub.sole id a.station (Option.isSome_of_eq_some hdesk) (Option.isSome_of_eq_some h.desk)
    (hpool.trans (h.placed hw).pool_eq.symm)

/-- Whoever sends the station a request of the requester is the acquisition itself. -/
theorem requesting_of_sends (h : w.Follows n first a d) (hw : w.Sound)
    (hspares : mv.Spares a.mailbox.address) {e : Envelope} {priority : Int}
    (hsends : w.Sends mv a.station e w') (he : e.message = .request a.requester priority) :
    a.stage = .requesting := by
  obtain ⟨k, b, hb, haddress, hstage⟩ :=
    hsends.exists_requesting hw hspares (h.placed hw).pool_eq he
  by_cases hk : k = n
  · subst hk
    rw [h.acquisition, Option.some.injEq] at hb
    exact hb ▸ hstage
  · have hover := h.alone k b hb hk haddress
    rw [Acquisition.isOver, hstage] at hover
    cases hover

end Follows

/-! ### What a move keeps -/

namespace Follows

theorem alone_moved (h : w.Follows n first a d) (hw : w.Sound) (hmoved : Moved w mv w')
    (hspares : mv.Spares a.mailbox.address) {k : Nat} {b : Acquisition}
    (hb : w'.acquisitions[k]? = some b) (hk : k ≠ n)
    (haddress : b.mailbox.address = a.mailbox.address) : b.isOver = true := by
  obtain ⟨b₀, hb₀, hsame, hover⟩ := hmoved.exists_before hw hspares hb haddress
  have hdone := h.alone k b₀ hb₀ hk hsame
  rw [hover hdone]
  exact hdone

/-- The address is vacant once the acquisition is over. -/
theorem vacant_moved (h : w.Follows n first a d) (hw : w.Sound) (hmoved : Moved w mv w')
    (hspares : mv.Spares a.mailbox.address) (ha' : w'.acquisitions[n]? = some a')
    (hover : a'.isOver = true) : w'.Vacant a.mailbox.address := by
  intro b hb haddress
  obtain ⟨k, hk⟩ := List.mem_iff_getElem?.mp hb
  by_cases hlatest : k = n
  · rw [hlatest, ha', Option.some.injEq] at hk
    exact hk ▸ hover
  · exact h.alone_moved hw hmoved hspares hk hlatest haddress

/-- Whatever comes to the mailbox was granted to its requester since the start. -/
theorem announced_moved (h : w.Follows n first a d) (hw : w.Sound) (hmoved : Moved w mv w')
    (hspares : mv.Spares a.mailbox.address) {rs : List Response} {channel : String}
    {lease : Nat} {r : Resource} (hbox : w'.hub.exchange.box? a.mailbox = some rs)
    (hmem : .acquired channel lease r ∈ rs) :
    channel = releaseChannel a.requester ∧ first ≤ lease := by
  cases hmoved.trades.fills hw.hub hbox with
  | rests hold => exact h.announced rs channel lease r hold hmem
  | read hold hread =>
    rw [hread] at hmem
    exact h.announced _ channel lease r hold (List.mem_of_mem_tail hmem)
  | opens hempty =>
    rw [hempty] at hmem
    cases hmem
  | outsider hmove hold hfills =>
    rw [hfills] at hmem
    rcases List.mem_append.mp hmem with hbefore | hnew
    · exact h.announced _ channel lease r hold hbefore
    · rw [← List.mem_singleton.mp hnew] at hmove
      rw [hmove] at hspares
      exact absurd rfl hspares
  | @served id c c' inbox rest reach input query effects sent rs' hmove hc hdesk htakes hstep hsent
      hpool hnewest hold hfills hdesk' =>
    rw [hfills] at hmem
    rcases List.mem_append.mp hmem with hbefore | hnew
    · exact h.announced _ channel lease r hold hbefore
    · have hdelivered := hsent.subset (Effect.mem_responses.mp hnew)
      have hid := h.eq_station hw hdesk hpool
      have hd := h.desk
      rw [← hid, hdesk, Option.some.injEq] at hd
      have hfirst := h.first_le
      rw [← hd] at hfirst
      refine ⟨(hstep.handover hc.toSound hdelivered).channel_eq, ?_⟩
      exact Nat.le_trans hfirst (hstep.lease_of_acquired hdelivered).1

theorem first_le_moved (h : w.Follows n first a d) (hmoved : Moved w mv w')
    (hd' : w'.hub.desk? a.station = some d') : first ≤ d'.coordinator.nextLease := by
  have hfirst := h.first_le
  cases hmoved.serves h.desk hd' with
  | rests | gets => exact hfirst
  | takes hmove hc htakes hstep hexchange hanswers => exact Nat.le_trans hfirst hstep.nextLease_le

end Follows

/-! ### Moves of others -/

theorem Traced.concat {e : Envelope} {lease : Nat} (h : w.Traced a d lease) :
    w.Traced a { d with inbox := d.inbox ++ [e] } lease := by
  cases h with
  | announced hbox hmem => exact .announced hbox hmem
  | collected hstage => exact .collected hstage
  | returned hmem =>
    refine .returned ?_
    rw [Desk.messages_concat]
    exact List.mem_append_left _ hmem

theorem Traced.kept {lease : Nat} (h : w.Traced a d lease)
    (hkept : Exchange.Kept a.mailbox w.hub.exchange w'.hub.exchange) : w'.Traced a d lease := by
  cases h with
  | announced hbox hmem =>
    obtain ⟨rs', hbox', -⟩ := hkept.box
    rw [hbox] at hbox'
    exact .announced hbox' (List.mem_append_left rs' hmem)
  | collected hstage => exact .collected hstage
  | returned hmem => exact .returned hmem

namespace Follows

/-- After a turn of the station, an old lease is traced as before, and a new one is announced. -/
theorem traced_takes (h : w.Follows n first a d) (hw : w.Sound)
    (hkept : Exchange.Kept a.mailbox w.hub.exchange w'.hub.exchange)
    {c c' : Coordinator} {inbox rest : List Envelope} {reach : String → Bool}
    {input : Coordinator.Input} {query : Option Nat} {effects : List Effect} (hc : c.Resting)
    (hd : d = ⟨c.still, inbox⟩) (htakes : Station.Takes inbox input query rest)
    (hstep : c.Stepped w.hub.clock.still reach input effects c')
    (hexchange : w'.hub.exchange = w.hub.exchange.carry a.station.pool effects) {l : Lease}
    (hl : c'.leases.get? (releaseChannel a.requester) = some l) (hfirst : first ≤ l.id) :
    w'.Traced a ⟨c'.still, rest⟩ l.id := by
  subst hd
  rcases hstep.lease_cases hl with hold | ⟨r, hdelivered⟩
  · cases (h.traced l hold hfirst).kept hkept with
    | announced hbox hmem => exact .announced hbox hmem
    | collected hstage => exact .collected hstage
    | returned hmem =>
      cases htakes with
      | expiry => exact .returned hmem
      | message e rest =>
        rcases List.mem_cons.mp hmem with hnow | hlater
        · -- the return has just been handled
          have hends : Coordinator.Ends (releaseChannel a.requester) l.id (.message e.message)
              .released := hnow ▸ .release (some l.id) fun k hk => (Option.some.inj hk).symm
          exact absurd rfl ((hstep.ended hc.toSound hold hends).gone _ l hl)
        · exact .returned hlater
  · have hrequester : l.requester = a.requester :=
      (releaseChannel_injective ((hstep.sound hc.toSound).grant_of_lease _ l hl).1).symm
    rw [hrequester] at hdelivered
    obtain ⟨rs, hbox⟩ := h.exists_box hw
    have hpool := (h.placed hw).pool_eq
    have hchannel := (hstep.handover hc.toSound hdelivered).channel_eq
    have hbox' : w'.hub.exchange.box? a.mailbox =
        some (rs ++ effects.filterMap (Effect.responseTo? a.requester)) := by
      rw [hexchange, (hw.hub.exchange.carry _ _).box_eq, if_pos ⟨hpool.symm, h.route_eq hw⟩, hbox]
      rfl
    exact .announced hbox' (List.mem_append_right rs (Effect.mem_responses.mpr hdelivered))

theorem traced_rests (h : w.Follows n first a d) (hw : w.Sound) (hmoved : Moved w mv w')
    (hkept : Exchange.Kept a.mailbox w.hub.exchange w'.hub.exchange)
    (hd' : w'.hub.desk? a.station = some d') :
    ∀ l, d'.coordinator.leases.get? (releaseChannel a.requester) = some l →
      first ≤ l.id → w'.Traced a d' l.id := by
  intro l hl hfirst
  cases hmoved.serves h.desk hd' with
  | rests => exact (h.traced l hl hfirst).kept hkept
  | gets d hsends hquery => exact (h.traced l hl hfirst).concat.kept hkept
  | takes hmove hc htakes hstep hexchange hanswers =>
    exact h.traced_takes hw hkept hc rfl htakes hstep hexchange hl hfirst

/-- A query that waits in the inbox has a number that is not given out again. -/
theorem query_lt (h : w.Follows n first a d) (hw : w.Sound) {before behind : List Envelope}
    {query : Nat} (hinbox : d.inbox = before ++ ⟨.status, some query⟩ :: behind) :
    query < w.hub.asked := by
  refine hw.hub.query_lt a.station d ⟨.status, some query⟩ query h.desk ?_ rfl
  rw [hinbox]
  exact List.mem_append_right before List.mem_cons_self

/-- The query of an acquisition comes into no other inbox. -/
theorem sole_moved (hmoved : Moved w mv w') {query : Nat} (hlt : query < w.hub.asked)
    (hsole : ∀ other d₁, other ≠ a.station → w.hub.desk? other = some d₁ →
      ∀ e ∈ d₁.inbox, e.query ≠ some query) :
    ∀ other d₁, other ≠ a.station → w'.hub.desk? other = some d₁ →
      ∀ e ∈ d₁.inbox, e.query ≠ some query := by
  intro other d₁ hother hd₁ e he
  cases hmoved.attends hd₁ with
  | opens hclosed hqueue hleases hinbox =>
    rw [hinbox] at he
    cases he
  | serves hdesk hserves =>
    cases hserves with
    | rests => exact hsole other _ hother hdesk e he
    | takes hmove hc htakes hstep hexchange hanswers =>
      exact hsole other _ hother hdesk e (htakes.mem_of_rest he)
    | gets d hsends hquery =>
      rcases List.mem_append.mp he with hold | hnew
      · exact hsole other _ hother hdesk e hold
      · rw [← List.mem_singleton.mp hnew] at hquery
        rcases hquery with hnone | hasked
        · rw [hnone]
          exact nofun
        · rw [hasked]
          exact fun heq => Nat.ne_of_gt hlt (Option.some.inj heq)

/-- While a query waits and its station does not take it, nobody answers it. -/
theorem unanswered_moved (h : w.Follows n first a d) (hmoved : Moved w mv w')
    (hd' : w'.hub.desk? a.station = some d') {query : Nat}
    (hlength : d.inbox.length ≤ d'.inbox.length)
    (hsole : ∀ other d₁, other ≠ a.station → w.hub.desk? other = some d₁ →
      ∀ e ∈ d₁.inbox, e.query ≠ some query)
    (hanswer : w.hub.answers.get? query = none) : w'.hub.answers.get? query = none := by
  by_contra hsome
  rcases hmoved.replies.taken query (Option.isSome_iff_ne_none.mpr hsome) with
    hbefore | ⟨id, d₁, d₁', e, -, hd₁, hd₁', htaken, hquery⟩
  · rw [hanswer] at hbefore
    cases hbefore
  · by_cases hid : id = a.station
    · subst hid
      rw [h.desk, Option.some.injEq] at hd₁
      rw [hd', Option.some.injEq] at hd₁'
      subst hd₁ hd₁'
      rw [htaken, List.length_cons] at hlength
      exact Nat.not_succ_le_self _ hlength
    · refine hsole id d₁ hid hd₁ e ?_ hquery
      rw [htaken]
      exact List.mem_cons_self

/-- A turn of the station brings the query closer to its answer. -/
theorem queried_takes (h : w.Follows n first a d) (hw : w.Sound) (hmoved : Moved w mv w')
    {c c' : Coordinator} {inbox rest : List Envelope} {reach : String → Bool}
    {input : Coordinator.Input} {taken : Option Nat} {effects : List Effect} (hc : c.Resting)
    (hd : d = ⟨c.still, inbox⟩) (htakes : Station.Takes inbox input taken rest)
    (hstep : c.Stepped w.hub.clock.still reach input effects c')
    (hanswers : ∀ q, (w'.hub.answers.get? q).isSome ↔
      (w.hub.answers.get? q).isSome ∨ taken = some q ∧ ∃ a, .answer a ∈ effects) {query : Nat}
    (hqueried : w.Queried a d query) : w'.Queried a ⟨c'.still, rest⟩ query := by
  subst hd
  cases hqueried with
  | answered hclear hanswer =>
    exact .answered (hclear.takes htakes hstep) (hmoved.replies.kept query hanswer)
  | pending before behind hinbox hbefore hbehind hfirst hsole hanswer =>
    have hsole' := sole_moved hmoved (h.query_lt hw hinbox) hsole
    -- unless the query itself is taken, it stays unanswered
    have hunanswered (htaken : taken ≠ some query) : w'.hub.answers.get? query = none := by
      by_contra hsome
      rcases (hanswers query).mp (Option.isSome_iff_ne_none.mpr hsome) with hold | ⟨hnow, -⟩
      · rw [hanswer] at hold
        cases hold
      · exact htaken hnow
    simp only at hinbox
    subst hinbox
    cases before with
    | nil =>
      cases htakes with
      | expiry =>
        exact .pending [] behind rfl (fun hwaits => hbefore (hstep.mayWait_of_expiry hwaits))
          hbehind hfirst hsole' (hunanswered nofun)
      | message =>
        refine .answered ⟨fun hwaits => ?_, hbehind⟩ ?_
        · exact hbefore ((hstep.waits hwaits).resolve_right nofun)
        · exact (hanswers query).mpr (Or.inr ⟨rfl, hstep.answers⟩)
    | cons e before =>
      cases htakes with
      | expiry =>
        exact .pending (e :: before) behind rfl
          (fun hwaits => hbefore (hstep.mayWait_of_expiry hwaits)) hbehind hfirst hsole'
          (hunanswered nofun)
      | message =>
        have hwas : ¬ c.MayWait a.requester (e.message :: before.map Envelope.message) := hbefore
        refine .pending before behind rfl (fun hwaits => hwas (hstep.mayWait hc.toSound hwaits))
          hbehind (fun e' he' => hfirst e' (List.mem_cons_of_mem e he')) hsole' (hunanswered ?_)
        exact hfirst e List.mem_cons_self

theorem queried_gets (h : w.Follows n first a d) (hw : w.Sound) (hmoved : Moved w mv w')
    {e : Envelope} (he : ∀ priority, e.message ≠ .request a.requester priority)
    (hd' : w'.hub.desk? a.station = some { d with inbox := d.inbox ++ [e] }) {query : Nat}
    (hqueried : w.Queried a d query) :
    w'.Queried a { d with inbox := d.inbox ++ [e] } query := by
  cases hqueried with
  | answered hclear hanswer =>
    exact .answered (hclear.concat he) (hmoved.replies.kept query hanswer)
  | pending before behind hinbox hbefore hbehind hfirst hsole hanswer =>
    have hlength : d.inbox.length ≤ (d.inbox ++ [e]).length := by simp
    refine .pending before (behind ++ [e]) ?_ hbefore ?_ hfirst
      (sole_moved hmoved (h.query_lt hw hinbox) hsole)
      (h.unanswered_moved hmoved hd' hlength hsole hanswer)
    · rw [hinbox, List.append_assoc]
      rfl
    · intro priority hmem
      rw [List.map_append] at hmem
      rcases List.mem_append.mp hmem with hold | hnew
      · exact hbehind priority hold
      · exact he priority (List.mem_singleton.mp hnew).symm

theorem queried_rests (h : w.Follows n first a d) (hw : w.Sound) (hmoved : Moved w mv w')
    (hd' : w'.hub.desk? a.station = some d) {query : Nat} (hqueried : w.Queried a d query) :
    w'.Queried a d query := by
  cases hqueried with
  | answered hclear hanswer => exact .answered hclear (hmoved.replies.kept query hanswer)
  | pending before behind hinbox hbefore hbehind hfirst hsole hanswer =>
    exact .pending before behind hinbox hbefore hbehind hfirst
      (sole_moved hmoved (h.query_lt hw hinbox) hsole)
      (h.unanswered_moved hmoved hd' (Nat.le_refl _) hsole hanswer)

/-- What others do leaves the withdrawal as far as it has come. -/
theorem withdraws_rests (h : w.Follows n first a d) (hw : w.Sound) (hmoved : Moved w mv w')
    (hspares : mv.Spares a.mailbox.address) (hd' : w'.hub.desk? a.station = some d') :
    w'.Withdraws a d' := by
  have hwithdraws := h.withdraws
  unfold Withdraws at hwithdraws ⊢
  -- nobody sends a request of the requester unless the acquisition is at its start
  have hsent {e : Envelope} (hsends : w.Sends mv a.station e w')
      (hstage : a.stage ≠ .requesting) (priority : Int) :
      e.message ≠ .request a.requester priority :=
    fun he => hstage (h.requesting_of_sends hw hspares hsends he)
  cases hstage : a.stage with
  | asking =>
    rw [hstage] at hwithdraws hsent
    cases hmoved.serves h.desk hd' with
    | rests => exact hwithdraws
    | gets d hsends hquery =>
      simp only [Desk.messages_concat]
      exact Coordinator.not_mayWait_concat hwithdraws (hsent hsends nofun)
    | @takes c c' inbox rest reach input taken effects hmove hc htakes hstep hexchange hanswers =>
      have hwas : ¬ c.MayWait a.requester (inbox.map Envelope.message) := hwithdraws
      cases htakes with
      | expiry => exact fun hwaits => hwas (hstep.mayWait_of_expiry hwaits)
      | message => exact fun hwaits => hwas (hstep.mayWait hc.toSound hwaits)
  | asked query =>
    rw [hstage] at hwithdraws hsent
    cases hmoved.serves h.desk hd' with
    | rests => exact h.queried_rests hw hmoved hd' hwithdraws
    | gets d hsends hquery =>
      exact h.queried_gets hw hmoved (hsent hsends nofun) hd' hwithdraws
    | takes hmove hc htakes hstep hexchange hanswers =>
      exact h.queried_takes hw hmoved hc rfl htakes hstep hanswers hwithdraws
  | collecting | returning =>
    rw [hstage] at hwithdraws hsent
    cases hmoved.serves h.desk hd' with
    | rests => exact hwithdraws
    | gets d hsends hquery => exact hwithdraws.concat (hsent hsends nofun)
    | takes hmove hc htakes hstep hexchange hanswers => exact hwithdraws.takes htakes hstep
  | requesting | waiting | withdrawing | displaced | finished | aborted => trivial

theorem rests (h : w.Follows n first a d) (hw : w.Sound) (hmoved : Moved w mv w')
    (hspares : mv.Spares a.mailbox.address) (ha' : w'.acquisitions[n]? = some a)
    (hkept : Exchange.Kept a.mailbox w.hub.exchange w'.hub.exchange)
    (hd' : w'.hub.desk? a.station = some d') : w'.Follows n first a d' where
  acquisition := ha'
  unfinished := h.unfinished
  desk := hd'
  alone _ _ := h.alone_moved hw hmoved hspares
  newest := (hmoved.trades.registered_eq hw.hub hspares.not_opens).trans h.newest
  first_le := h.first_le_moved hmoved hd'
  announced _ _ _ _ := h.announced_moved hw hmoved hspares
  collected := h.collected
  traced := h.traced_rests hw hmoved hkept hd'
  withdraws := h.withdraws_rests hw hmoved hspares hd'

/-! ### Steps of the acquisition -/

theorem traced_tells (h : w.Follows n first a d) {e : Envelope} {next : Stage}
    (htells : a.Tells w.hub.asked e next) (hexchange : w'.hub.exchange = w.hub.exchange) {l : Lease}
    (hl : d.coordinator.leases.get? (releaseChannel a.requester) = some l)
    (hfirst : first ≤ l.id) :
    w'.Traced { a with stage := next } { d with inbox := d.inbox ++ [e] } l.id := by
  cases (h.traced l hl hfirst).concat (e := e) with
  | announced hbox hmem => exact .announced (hexchange ▸ hbox) hmem
  | returned hmem => exact .returned hmem
  | collected hstage =>
    cases htells with
    | giveBack hstage' =>
      obtain ⟨rfl, rfl⟩ := Stage.returning.inj (hstage'.symm.trans hstage)
      refine .returned ?_
      rw [Desk.messages_concat]
      exact List.mem_append_right _ (List.mem_singleton_self _)
    | request hstage' | withdrawal hstage' | query hstage' =>
      rw [hstage'] at hstage
      cases hstage

/-- The query that an acquisition sends is new, and all that it has sent is ahead of it. -/
theorem queried_of_asking (h : w.Follows n first a d) (hw : w.Sound)
    (hwaits : ¬ d.coordinator.MayWait a.requester d.messages)
    (hpost : w.hub.Posted a.station ⟨.status, some w.hub.asked⟩ w'.hub) :
    w'.Queried { a with stage := .asked w.hub.asked }
      { d with inbox := d.inbox ++ [⟨.status, some w.hub.asked⟩] } w.hub.asked := by
  have hnew (id : StationId) (d₁ : Desk) (hd₁ : w.hub.desk? id = some d₁) :
      ∀ e ∈ d₁.inbox, e.query ≠ some w.hub.asked := fun e he hquery =>
    Nat.lt_irrefl _ (hw.hub.query_lt id d₁ e w.hub.asked hd₁ he hquery)
  obtain ⟨d₁, -, hdesks⟩ := hpost.desks
  refine .pending d.inbox [] rfl hwaits (fun _ => List.not_mem_nil)
    (hnew a.station d h.desk) (fun other d₂ hother hd₂ => ?_) ?_
  · rw [hdesks, if_neg (Ne.symm hother)] at hd₂
    exact hnew other d₂ hd₂
  · rw [hpost.answers_eq]
    by_contra hsome
    exact Nat.lt_irrefl _ (hw.hub.answer_lt _ (Option.isSome_iff_ne_none.mpr hsome))

theorem withdraws_tells (h : w.Follows n first a d) (hw : w.Sound) {e : Envelope} {next : Stage}
    (htells : a.Tells w.hub.asked e next) (hpost : w.hub.Posted a.station e w'.hub) :
    w'.Withdraws { a with stage := next } { d with inbox := d.inbox ++ [e] } := by
  have hwithdraws := h.withdraws
  unfold Withdraws at hwithdraws
  cases htells with
  | request hstage => trivial
  | withdrawal hstage =>
    simp only [Withdraws, Desk.messages_concat]
    exact Coordinator.not_mayWait_concat_cancel _ _
  | query hstage =>
    rw [hstage] at hwithdraws
    exact h.queried_of_asking hw hwithdraws hpost
  | giveBack hstage =>
    rw [hstage] at hwithdraws
    exact hwithdraws.concat nofun

theorem tells (h : w.Follows n first a d) (hw : w.Sound) (hmoved : Moved w mv w')
    (hspares : mv.Spares a.mailbox.address) {e : Envelope} {next : Stage}
    (htells : a.Tells w.hub.asked e next) (hpost : w.hub.Posted a.station e w'.hub)
    (ha' : w'.acquisitions[n]? = some { a with stage := next }) :
    w'.Follows n first { a with stage := next } { d with inbox := d.inbox ++ [e] } := by
  have hd' : w'.hub.desk? a.station = some { d with inbox := d.inbox ++ [e] } := by
    obtain ⟨d₁, hd₁, hdesks⟩ := hpost.desks
    rw [h.desk, Option.some.injEq] at hd₁
    rw [hdesks, if_pos rfl, hd₁]
  exact
    { acquisition := ha'
      unfinished := htells.not_isOver.1
      desk := hd'
      alone := fun _ _ => h.alone_moved hw hmoved hspares
      newest := (hmoved.trades.registered_eq hw.hub hspares.not_opens).trans h.newest
      first_le := h.first_le
      announced := fun _ _ _ _ => h.announced_moved hw hmoved hspares
      collected := fun channel lease hstage => by
        cases htells <;> cases hstage
      traced := fun _ => h.traced_tells htells hpost.exchange_eq
      withdraws := h.withdraws_tells hw htells hpost }

theorem withdraws_turns (h : w.Follows n first a d) {next : Stage} {cancelled : Bool}
    (hturns : a.Turns w.hub cancelled next) : w'.Withdraws { a with stage := next } d := by
  have hwithdraws := h.withdraws
  unfold Withdraws at hwithdraws
  cases hturns with
  | alarmed hstage hfired | displaced hstage hunfired hended => trivial
  | answered hstage hanswer =>
    rw [hstage] at hwithdraws
    cases hwithdraws with
    | answered hclear => exact hclear
    | pending before behind hinbox hbefore hbehind hfirst hsole hnone =>
      rw [hnone] at hanswer
      cases hanswer
  | unreturned hstage hclosed =>
    rw [h.desk] at hclosed
    cases hclosed

theorem turns (h : w.Follows n first a d) (hw : w.Sound) (hmoved : Moved w mv w')
    (hspares : mv.Spares a.mailbox.address) {next : Stage} {cancelled : Bool}
    (hturns : a.Turns w.hub cancelled next) (hhub : w'.hub = w.hub)
    (ha' : w'.acquisitions[n]? = some { a with stage := next }) :
    w'.Follows n first { a with stage := next } d where
  acquisition := ha'
  unfinished := by cases hturns <;> rfl
  desk := by
    rw [hhub]
    exact h.desk
  alone _ _ := h.alone_moved hw hmoved hspares
  newest := (hmoved.trades.registered_eq hw.hub hspares.not_opens).trans h.newest
  first_le := h.first_le
  announced _ _ _ _ := h.announced_moved hw hmoved hspares
  collected channel lease hstage := by cases hturns <;> cases hstage
  traced l hl hfirst := by
    cases h.traced l hl hfirst with
    | announced hbox hmem =>
      rw [← hhub] at hbox
      exact .announced hbox hmem
    | returned hmem => exact .returned hmem
    | collected hstage =>
      cases hturns with
      | unreturned hstage' hclosed =>
        rw [h.desk] at hclosed
        cases hclosed
      | alarmed hstage' | displaced hstage' | answered hstage' =>
        rw [hstage'] at hstage
        cases hstage
  withdraws := h.withdraws_turns hturns

/-- Looking into the mailbox: a grant that is taken out is to be returned. -/
theorem collects (h : w.Follows n first a d) (hw : w.Sound) (hmoved : Moved w mv w')
    (hspares : mv.Spares a.mailbox.address) {r : Response} {rest : List Response} {next : Stage}
    (hstage : a.stage = .collecting)
    (hbox : w.hub.exchange.box? a.mailbox = some (r :: rest))
    (hhub : w'.hub = { w.hub with exchange := (w.hub.exchange.receive a.mailbox).1 })
    (hnext : next = .collecting ∧ r = .cancelled ∨
      ∃ channel lease resource, next = .returning channel lease ∧
        r = .acquired channel lease resource)
    (ha' : w'.acquisitions[n]? = some { a with stage := next }) :
    w'.Follows n first { a with stage := next } d where
  acquisition := ha'
  unfinished := by
    rcases hnext with ⟨rfl, -⟩ | ⟨channel, lease, resource, rfl, -⟩ <;> rfl
  desk := by
    rw [hhub]
    exact h.desk
  alone _ _ := h.alone_moved hw hmoved hspares
  newest := (hmoved.trades.registered_eq hw.hub hspares.not_opens).trans h.newest
  first_le := h.first_le
  announced _ _ _ _ := h.announced_moved hw hmoved hspares
  collected channel lease hreturning := by
    rcases hnext with ⟨rfl, -⟩ | ⟨channel', lease', resource, rfl, hr⟩
    · cases hreturning
    · cases hreturning
      exact h.announced _ _ _ resource hbox (hr ▸ List.mem_cons_self)
  traced l hl hfirst := by
    cases h.traced l hl hfirst with
    | @announced rs r' hbox' hmem =>
      rw [hbox, Option.some.injEq] at hbox'
      subst hbox'
      rcases List.mem_cons.mp hmem with hhead | hlater
      · rcases hnext with ⟨-, rfl⟩ | ⟨channel, lease, resource, rfl, rfl⟩
        · cases hhead
        · cases hhead
          exact .collected rfl
      · have hrest : w'.hub.exchange.box? a.mailbox = some rest := by
          rw [hhub, Exchange.box?_receive, if_pos rfl, hbox]
          rfl
        exact .announced hrest hlater
    | returned hmem => exact .returned hmem
    | collected hstage' =>
      rw [hstage] at hstage'
      cases hstage'
  withdraws := by
    have hwithdraws := h.withdraws
    unfold Withdraws at hwithdraws ⊢
    rw [hstage] at hwithdraws
    rcases hnext with ⟨rfl, -⟩ | ⟨channel, lease, resource, rfl, -⟩ <;> exact hwithdraws

/-- An acquisition that takes a step and is not over then is still followed. -/
theorem went (h : w.Follows n first a d) (hw : w.Sound) (hmoved : Moved w mv w')
    (hspares : mv.Spares a.mailbox.address) {cancelled : Bool}
    (hwent : a.Went w.hub cancelled w'.hub a') (ha' : w'.acquisitions[n]? = some a')
    (hover : a'.isOver = false) : ∃ d', w'.Follows n first a' d' := by
  cases hwent with
  | tells htells hpost hgoes =>
    subst hgoes
    exact ⟨_, h.tells hw hmoved hspares htells hpost ha'⟩
  | turns hturns hhub hgoes =>
    subst hgoes
    exact ⟨d, h.turns hw hmoved hspares hturns hhub ha'⟩
  | finds hstage hbox hhub hgoes =>
    subst hgoes
    exact ⟨d, h.collects hw hmoved hspares hstage hbox hhub (Or.inr ⟨_, _, _, rfl, rfl⟩) ha'⟩
  | skips hstage hbox hhub hgoes =>
    have hsame : a' = { a with stage := .collecting } := by
      rw [hgoes, ← hstage]
    subst hsame
    exact ⟨d, h.collects hw hmoved hspares hstage hbox hhub (Or.inl ⟨rfl, rfl⟩) ha'⟩
  | ends hends hshut hhub hgoes | leaves hstage hpost hshut hhub hgoes =>
    rw [hgoes] at hover
    cases hover

/-- An acquisition that is not over after a move is still followed, if its station still works. -/
theorem moved (h : w.Follows n first a d) (hw : w.Sound) (hmoved : Moved w mv w')
    (hspares : mv.Spares a.mailbox.address) (ha' : w'.acquisitions[n]? = some a')
    (hover : a'.isOver = false) (hdesk : (w'.hub.desk? a.station).isSome) :
    ∃ d', w'.Follows n first a' d' := by
  cases hw.fares hmoved h.acquisition with
  | rests hsame hkept =>
    rw [ha', Option.some.injEq] at hsame
    subst hsame
    obtain ⟨d', hd'⟩ := Option.isSome_iff_exists.mp hdesk
    exact ⟨d', h.rests hw hmoved hspares ha' hkept hd'⟩
  | goes hmove hwent hgoes =>
    rw [ha', Option.some.injEq] at hgoes
    subst hgoes
    exact h.went hw hmoved hspares hwent ha' hover
  | stops hmove hopen hshut hgoes =>
    rw [ha', Option.some.injEq] at hgoes
    rw [hgoes] at hover
    cases hover

end Follows

/-! ### Runs -/

/-- A station works throughout a run. -/
def Works (w : World) (id : StationId) : List Move → Prop
  | [] => (w.hub.desk? id).isSome
  | mv :: moves => (w.hub.desk? id).isSome ∧ (w.move mv).Works id moves

instance decidableWorks (w : World) (id : StationId) :
    (moves : List Move) → Decidable (w.Works id moves)
  | [] => inferInstanceAs (Decidable (_ = _))
  | mv :: moves => @instDecidableAnd _ _ _ (decidableWorks (w.move mv) id moves)

theorem Works.isSome {id : StationId} {moves : List Move} (h : w.Works id moves) :
    (w.hub.desk? id).isSome := by
  cases moves with
  | nil => exact h
  | cons mv moves => exact h.1

theorem Works.of_append {id : StationId} {moves moves' : List Move}
    (h : w.Works id (moves ++ moves')) : w.Works id moves := by
  induction moves generalizing w with
  | nil => exact h.isSome
  | cons mv moves ih => exact ⟨h.1, ih h.2⟩

theorem Vacant.clear_run {id : StationId} {address : Address} (h : w.Vacant address)
    (hw : w.Sound) {moves : List Move} (hspares : ∀ mv ∈ moves, mv.Spares address)
    (hworks : w.Works id moves) (hpool : id.pool = address.pool)
    (hd : w.hub.desk? id = some d) (hd' : (w.run moves).hub.desk? id = some d')
    (hclear : d.Clear address.requester) : d'.Clear address.requester := by
  induction moves generalizing w d with
  | nil =>
    have hsame := hd.symm.trans hd'
    rw [Option.some.injEq] at hsame
    exact hsame ▸ hclear
  | cons mv moves ih =>
    have hmoved := (moved_move hw.hub mv).2
    have hfirst := hspares mv List.mem_cons_self
    obtain ⟨d₁, hd₁⟩ := Option.isSome_iff_exists.mp hworks.2.isSome
    exact ih (h.moved hw hmoved hfirst) (hw.move mv)
      (fun mv' hmv' => hspares mv' (List.mem_cons_of_mem mv hmv')) hworks.2 hd₁ hd'
      (h.clear_moved hw hmoved hfirst hpool hd hd₁ hclear)

namespace Follows

/-- As long as it is not over, an acquisition is followed through a run. -/
theorem run (h : w.Follows n first a d) (hw : w.Sound) {moves : List Move}
    (hspares : ∀ mv ∈ moves, mv.Spares a.mailbox.address) (hworks : w.Works a.station moves)
    (ha' : (w.run moves).acquisitions[n]? = some a') (hover : a'.isOver = false) :
    ∃ d', (w.run moves).Follows n first a' d' := by
  induction moves generalizing w a d with
  | nil =>
    have hsame := h.acquisition.symm.trans ha'
    rw [Option.some.injEq] at hsame
    exact ⟨d, hsame ▸ h⟩
  | cons mv moves ih =>
    have hmoved := (moved_move hw.hub mv).2
    obtain ⟨b, hb, hmailbox, hstation, -⟩ := (hw.fares hmoved h.acquisition).same
    have hunfinished := (hw.move mv).not_isOver moves hb ha' hover
    obtain ⟨d', h'⟩ := h.moved hw hmoved (hspares mv List.mem_cons_self) hb hunfinished
      hworks.2.isSome
    refine ih h' (hw.move mv) (fun mv' hmv' => ?_) (hstation ▸ hworks.2) ha'
    rw [hmailbox]
    exact hspares mv' (List.mem_cons_of_mem mv hmv')

/-- An acquisition that starts with no other of its address under way is followed from there. -/
theorem of_acquire (hw : w.Sound) (client : Client) (resource : String)
    (leaseTimeout : Option Duration) (token : Option Nat)
    (hvacant : w.Vacant ⟨⟨client.space, resource⟩, client.requester⟩)
    (ha : (w.acquire client resource leaseTimeout token).acquisitions[w.acquisitions.length]? =
      some a) (hover : a.isOver = false)
    (hd : (w.acquire client resource leaseTimeout token).hub.desk? a.station = some d) :
    a.mailbox.address = ⟨⟨client.space, resource⟩, client.requester⟩ ∧
      (w.acquire client resource leaseTimeout token).Follows w.acquisitions.length
        d.coordinator.nextLease a d := by
  obtain ⟨hsound, hmoved⟩ := moved_acquire hw.hub client resource leaseTimeout token
  have harrives := (hmoved.arrives (List.getElem?_eq_none_iff.mpr (Nat.le_refl _)) ha).1
  have hstage : a.stage = .requesting := by
    rcases harrives.outcome with ⟨hstage, -⟩ | ⟨⟨e, hstage⟩, -⟩
    · exact hstage
    · rw [Acquisition.isOver, hstage] at hover
      cases e <;> cases hover
  have haddress : a.mailbox.address = ⟨⟨client.space, resource⟩, client.requester⟩ := by
    obtain ⟨client', resource', leaseTimeout', hmove, hown⟩ := harrives.move_eq
    cases hmove
    exact hown
  have hexchange := harrives.exchange_eq hstage
  obtain ⟨c, hc, hcoordinator⟩ := hsound.exists_resting hd
  refine ⟨haddress, ?_⟩
  exact
    { acquisition := ha
      unfinished := hover
      desk := hd
      alone := fun k b hb hk hba => by
        cases hold : w.acquisitions[k]? with
        | none => exact absurd (hmoved.arrives hold hb).2 hk
        | some b₀ =>
          obtain ⟨b', hb', hmailbox, -, hsame⟩ := (hw.fares hmoved hold).same
          rw [hb, Option.some.injEq] at hb'
          subst hb'
          have hdone := hvacant b₀ (List.mem_of_getElem? hold)
            (hmailbox ▸ hba.trans haddress)
          rw [hsame hdone]
          exact hdone
      newest := by
        rw [hexchange]
        exact harrives.registered_register
      first_le := Nat.le_refl _
      announced := fun rs channel lease r hbox hmem => by
        rw [hexchange, harrives.box?_register, Option.some.injEq] at hbox
        rw [← hbox] at hmem
        cases hmem
      collected := fun channel lease hreturning => by
        rw [hstage] at hreturning
        cases hreturning
      traced := fun l hl hfirst => by
        rw [hcoordinator] at hl hfirst
        exact absurd (hc.lease_lt _ l hl) (Nat.not_lt.mpr hfirst)
      withdraws := by
        rw [Withdraws, hstage]
        trivial }

/-- An acquisition that ends after its token has fired ends with an empty mailbox, and with its
requester neither waiting nor about to. -/
theorem cleared (h : w.Follows n first a d) {hub' : Hub} {cancelled : Bool}
    (hwent : a.Went w.hub cancelled hub' a') (hstage : a.stage ≠ .waiting)
    (hcancelled : a'.outcome? = some (.error .cancelled)) :
    a.stage = .collecting ∧ (∀ id, hub'.desk? id = w.hub.desk? id) ∧
      (w.hub.exchange.box? a.mailbox = none ∨ w.hub.exchange.box? a.mailbox = some []) := by
  rcases hwent.of_outcome hcancelled with ⟨hends, hdesks⟩ | ⟨-, hleft⟩
  · cases hends with
    | turnedAway hwaiting => exact absurd hwaiting hstage
    | unheard hunheard hclosed =>
      rw [h.desk] at hclosed
      cases hclosed
    | cleared hcollecting hbox => exact ⟨hcollecting, hdesks, hbox⟩
    | unanswered hasked hanswer hgone =>
      have hwithdraws := h.withdraws
      rw [Withdraws, hasked] at hwithdraws
      cases hwithdraws with
      | answered hclear hsome =>
        rw [hanswer] at hsome
        cases hsome
      | pending before behind hinbox hbefore hbehind hfirst hsole hnone =>
        refine absurd rfl (hgone a.station d h.desk ⟨.status, some _⟩ ?_)
        rw [hinbox]
        exact List.mem_append_right before List.mem_cons_self
  · cases hleft

end Follows

end World

end LeasePool
