import LeasePool.Proofs.Following

/-!
What an acquisition leaves behind that ends because its token has fired. When it ends, its requester
neither waits nor is about to, and every lease that the requester was granted meanwhile is on its
way back; once the messages in the inbox have been handled, none is left. Leases from before are not
touched.
-/
namespace LeasePool

namespace World

variable {w w' : World} {mv : Move} {n first : Nat} {a a' : Acquisition} {d d' : Desk}

/-! ### After the end -/

/-- How many messages wait in the inbox of a station. -/
def backlog (w : World) (id : StationId) : Nat :=
  ((w.hub.desk? id).map fun d => d.inbox.length).getD 0

/-- How many messages a station takes in a run. -/
def taken (w : World) (id : StationId) : List Move → Nat
  | [] => 0
  | mv :: moves => (w.backlog id - (w.move mv).backlog id) + (w.move mv).taken id moves

theorem backlog_eq {id : StationId} (hd : w.hub.desk? id = some d) :
    w.backlog id = d.inbox.length := by
  rw [backlog, hd]
  rfl

/-- Messages at the head of an inbox that return leases: those of a requester in a range of numbers
that are still there. -/
structure Due (q : String) (first last : Nat) (due : List Envelope) (d : Desk) : Prop where
  ahead : due <+: d.inbox
  last_le : last ≤ d.coordinator.nextLease
  returned : ∀ l, d.coordinator.leases.get? (releaseChannel q) = some l → first ≤ l.id →
    l.id < last → .release (releaseChannel q) (some l.id) ∈ due.map Envelope.message

namespace Due

variable {q : String} {last : Nat} {due : List Envelope} {id : StationId}

theorem taken_message (h : Due q first last due d) {c c' : Coordinator} {e : Envelope}
    {rest : List Envelope} {clock : Readings} {reach : String → Bool} {effects : List Effect}
    (hc : c.Resting) (hd : d = ⟨c.still, e :: rest⟩)
    (hstep : c.Stepped clock reach (.message e.message) effects c') :
    Due q first last due.tail ⟨c'.still, rest⟩ := by
  subst hd
  refine ⟨?_, Nat.le_trans h.last_le hstep.nextLease_le, fun l hl hfirst hlast => ?_⟩
  · rcases due with _ | ⟨e', due⟩
    · exact List.nil_prefix
    · exact (List.cons_prefix_cons.mp h.ahead).2
  rcases hstep.lease_cases hl with hold | ⟨r, hdelivered⟩
  · have hdue := h.returned l hold hfirst hlast
    rcases due with _ | ⟨e', due⟩
    · cases hdue
    · obtain ⟨rfl, -⟩ := List.cons_prefix_cons.mp h.ahead
      rcases List.mem_cons.mp hdue with hnow | hlater
      · have hends : Coordinator.Ends (releaseChannel q) l.id (.message e'.message) .released :=
          hnow ▸ .release (some l.id) fun k hk => (Option.some.inj hk).symm
        exact absurd rfl ((hstep.ended hc.toSound hold hends).gone _ l hl)
      · exact hlater
  · -- a new lease has a later number
    have hnew := (hstep.lease_of_acquired hdelivered).1
    exact absurd (Nat.lt_of_lt_of_le hlast (Nat.le_trans h.last_le hnew)) (Nat.lt_irrefl _)

theorem taken_expiry (h : Due q first last due d) {c c' : Coordinator} {e : Expiry}
    {inbox : List Envelope} {clock : Readings} {reach : String → Bool} {effects : List Effect}
    (hd : d = ⟨c.still, inbox⟩) (hstep : c.Stepped clock reach (.expiry e) effects c') :
    Due q first last due ⟨c'.still, inbox⟩ := by
  subst hd
  refine ⟨h.ahead, Nat.le_trans h.last_le hstep.nextLease_le, fun l hl hfirst hlast => ?_⟩
  rcases hstep.lease_cases hl with hold | ⟨r, hdelivered⟩
  · exact h.returned l hold hfirst hlast
  · have hnew := (hstep.lease_of_acquired hdelivered).1
    exact absurd (Nat.lt_of_lt_of_le hlast (Nat.le_trans h.last_le hnew)) (Nat.lt_irrefl _)

theorem moved (h : Due q first last due d) (hmoved : Moved w mv w')
    (hd : w.hub.desk? id = some d) (hd' : w'.hub.desk? id = some d') :
    Due q first last (due.drop (w.backlog id - w'.backlog id)) d' := by
  rw [backlog_eq hd, backlog_eq hd']
  cases hmoved.serves hd hd' with
  | rests =>
    rw [Nat.sub_self]
    exact h
  | @gets d e hsends hquery =>
    have hmore : d.inbox.length - (d.inbox ++ [e]).length = 0 := by simp
    rw [hmore]
    exact ⟨h.ahead.trans (List.prefix_append _ _), h.last_le, h.returned⟩
  | takes hmove hc htakes hstep hexchange hanswers =>
    cases htakes with
    | expiry =>
      rw [Nat.sub_self]
      exact h.taken_expiry rfl hstep
    | message e rest =>
      rw [List.length_cons, Nat.add_sub_cancel_left, List.drop_one]
      exact h.taken_message hc rfl hstep

theorem run (h : Due q first last due d) (hw : w.Sound) {moves : List Move}
    (hworks : w.Works id moves) (hd : w.hub.desk? id = some d)
    (hd' : (w.run moves).hub.desk? id = some d') :
    Due q first last (due.drop (w.taken id moves)) d' := by
  induction moves generalizing w d due with
  | nil =>
    have hsame := hd.symm.trans hd'
    rw [Option.some.injEq] at hsame
    exact hsame ▸ h
  | cons mv moves ih =>
    obtain ⟨d₁, hd₁⟩ := Option.isSome_iff_exists.mp hworks.2.isSome
    have hstep := h.moved (moved_move hw.hub mv).2 hd hd₁
    have hrest := ih hstep (hw.move mv) hworks.2 hd₁ hd'
    rw [List.drop_drop] at hrest
    exact hrest

/-- Once nothing is due any more, the leases in question are gone. -/
theorem spent (h : Due q first last [] d) (hw : w.Sound) (hd : w.hub.desk? id = some d)
    {channel : String} {l : Lease} (hl : d.coordinator.leases.get? channel = some l)
    (hown : l.requester = q) : l.id < first ∨ last ≤ l.id := by
  obtain ⟨c, hc, hcoordinator⟩ := hw.hub.exists_resting hd
  have hheld := hl
  rw [hcoordinator] at hheld
  have hchannel := (hc.grant_of_lease channel l hheld).1
  rw [hown] at hchannel
  by_contra hbetween
  rw [not_or, Nat.not_lt, Nat.not_le] at hbetween
  exact List.not_mem_nil (h.returned l (hchannel ▸ hl) hbetween.1 hbetween.2)

end Due

/-- What is due once an acquisition has ended with an empty mailbox. -/
theorem Follows.due (h : w.Follows n first a d) (hstage : a.stage = .collecting)
    (hbox : w.hub.exchange.box? a.mailbox = none ∨ w.hub.exchange.box? a.mailbox = some []) :
    Due a.requester first d.coordinator.nextLease d.inbox d := by
  refine ⟨List.prefix_rfl, Nat.le_refl _, fun l hl hfirst hlast => ?_⟩
  cases h.traced l hl hfirst with
  | announced hbox' hmem =>
    rcases hbox with hnone | hempty
    · rw [hnone] at hbox'
      cases hbox'
    · rw [hempty, Option.some.injEq] at hbox'
      rw [← hbox'] at hmem
      cases hmem
  | collected hstage' =>
    rw [hstage] at hstage'
    cases hstage'
  | returned hmem => exact hmem

end World

/-! ### What an acquisition leaves behind -/

/-- Handling the message ends no lease with a number below a bound. -/
def Message.Harmless (first : Nat) (m : Message) : Prop :=
  ∀ (c : Coordinator) (clock : Readings) (reach : String → Bool) (channel : String) (l : Lease),
    c.Resting → c.leases.get? channel = some l → l.id < first →
      (c.step clock reach (.message m)).1.leases.get? channel = some l

theorem Message.harmless_of_not_ends {first : Nat} {m : Message}
    (hquiet : ∀ channel lease reason, lease < first →
      ¬ Coordinator.Ends channel lease (.message m) reason) : m.Harmless first := by
  intro c clock reach channel l hc hl hlt
  obtain ⟨r, hheld⟩ := hc.toSound.exists_holds hl
  have hstep := hc.toSound.step hc.settled clock reach (.message m)
  have hstill := (hheld.stepped hc.toSound (fun reason => hquiet _ _ reason hlt) hstep).1
  rw [(hc.grant_of_lease channel l hl).1]
  exact hstill.lease

theorem Message.harmless_release {first lease : Nat} (channel : String) (h : first ≤ lease) :
    (Message.release channel (some lease)).Harmless first := by
  refine harmless_of_not_ends fun channel' lease' reason hlt hends => ?_
  cases hends with
  | release only honly => exact absurd (honly lease rfl ▸ h) (Nat.not_le.mpr hlt)

namespace World

variable {w w' : World} {mv : Move} {n first : Nat} {a a' : Acquisition} {d d' : Desk}

/-- Nothing changes at any desk, except that a message may come that ends no earlier lease. -/
def Gentle (first : Nat) (w w' : World) : Prop :=
  ∀ id, w'.hub.desk? id = w.hub.desk? id ∨
    ∃ d e, w.hub.desk? id = some d ∧ w'.hub.desk? id = some { d with inbox := d.inbox ++ [e] } ∧
      e.message.Harmless first

theorem Gentle.of_posted {hub : Hub} {id : StationId} {e : Envelope}
    (hpost : w.hub.Posted id e hub) (hdesk : ∀ other, w'.hub.desk? other = hub.desk? other)
    (he : e.message.Harmless first) : Gentle first w w' := by
  intro other
  obtain ⟨d, hd, hdesks⟩ := hpost.desks
  by_cases hother : id = other
  · subst hother
    refine Or.inr ⟨d, e, hd, ?_, he⟩
    rw [hdesk, hdesks, if_pos rfl]
  · left
    rw [hdesk, hdesks, if_neg hother]

theorem Follows.harmless (h : w.Follows n first a d) {e : Envelope} {next : Stage}
    (htells : a.Tells w.hub.asked e next) : e.message.Harmless first := by
  cases htells with
  | request | withdrawal | query => exact Message.harmless_of_not_ends fun _ _ _ _ => nofun
  | giveBack hstage => exact Message.harmless_release _ (h.collected _ _ hstage).2

theorem Follows.gentle (h : w.Follows n first a d) :
    Gentle first w (w.move (.act (.proceed n))) := by
  cases hperform : w.perform (.proceed n) with
  | none =>
    rw [move, hperform]
    exact fun id => Or.inl rfl
  | some w' =>
    rw [move, hperform]
    obtain ⟨b, hb, hproceed⟩ := Option.bind_eq_some_iff.mp hperform
    obtain ⟨⟨hub, b'⟩, hstep, hw'⟩ := Option.bind_eq_some_iff.mp hproceed
    rw [h.acquisition, Option.some.injEq] at hb
    subst hb
    rw [Option.getD_some, ← Option.some.inj hw']
    cases (Acquisition.went_of_step? hstep).1 with
    | tells htells hpost hgoes => exact .of_posted hpost (fun _ => rfl) (h.harmless htells)
    | leaves hstage hpost hshut hhub hgoes =>
      subst hhub
      refine .of_posted hpost (fun _ => rfl) (Message.harmless_of_not_ends fun _ _ _ _ hends => ?_)
      cases hends
    | turns hturns hhub hgoes | finds hstage hbox hhub hgoes | skips hstage hbox hhub hgoes
    | ends hends hshut hhub hgoes =>
      subst hhub
      exact fun id => Or.inl rfl

end World

/-- What a client asks for when it acquires. -/
structure Call where
  client : Client
  resource : String
  leaseTimeout : Option Duration
  token : Option Nat

namespace Call

def address (call : Call) : Address :=
  ⟨⟨call.client.space, call.resource⟩, call.client.requester⟩

/-- The world in which the call has just started. -/
def start (call : Call) (w : World) : World :=
  w.acquire call.client call.resource call.leaseTimeout call.token

/-- The world after the last step of the call. -/
def stop (call : Call) (w : World) (during : List Move) : World :=
  ((call.start w).run during).move (.act (.proceed w.acquisitions.length))

variable {call : Call} {w : World} {during : List Move} {a : Acquisition}

/-- The call is the only one at its address, and its station works until the call has ended. It is
past waiting before its last step, which turns it away: its token has fired. -/
structure Cancelled (call : Call) (w : World) (during : List Move) (a : Acquisition) : Prop where
  vacant : w.Vacant call.address
  spares : ∀ mv ∈ during, mv.Spares call.address
  works : (call.start w).Works a.station during
  acquisition : ((call.start w).run during).acquisitions[w.acquisitions.length]? = some a
  unfinished : a.isOver = false
  alarmed : a.stage ≠ .waiting
  outcome : (call.stop w during).acquisitions[w.acquisitions.length]?.bind Acquisition.outcome? =
    some (.error .cancelled)

/-- The requester neither waits nor is about to when the call ends, nor later while its address is
left alone. Once the messages that are in the inbox when the call ends have been taken, no lease is
left that its requester was granted during the call. Steps of the call end no lease from before. -/
structure LeavesNothing (call : Call) (w : World) (during : List Move) (id : StationId)
    (d d' : Desk) : Prop where
  started : (call.start w).hub.desk? id = some d
  ended : (call.stop w during).hub.desk? id = some d'
  clear : ∀ (after : List Move) (d'' : Desk), (∀ mv ∈ after, mv.Spares call.address) →
    (call.stop w during).Works id after →
      ((call.stop w during).run after).hub.desk? id = some d'' → d''.Clear call.client.requester
  returned : ∀ (after : List Move) (d'' : Desk), (call.stop w during).Works id after →
    ((call.stop w during).run after).hub.desk? id = some d'' →
      d'.inbox.length ≤ (call.stop w during).taken id after →
        ∀ channel l, d''.coordinator.leases.get? channel = some l →
          l.requester = call.client.requester →
            l.id < d.coordinator.nextLease ∨ d'.coordinator.nextLease ≤ l.id
  gentle : ∀ past, past <+: during → World.Gentle d.coordinator.nextLease
    ((call.start w).run past) (((call.start w).run past).move (.act (.proceed
      w.acquisitions.length)))

/-- At any time until its end, a call that is cancelled is followed. -/
theorem Cancelled.follows (h : call.Cancelled w during a) (hw : w.Sound) :
    ∃ d, (call.start w).hub.desk? a.station = some d ∧ ∀ past, past <+: during →
      ∃ b d', b.mailbox.address = call.address ∧
        ((call.start w).run past).Follows w.acquisitions.length d.coordinator.nextLease b d' := by
  have hsound : (call.start w).Sound :=
    hw.move (.acquire call.client call.resource call.leaseTimeout call.token)
  obtain ⟨a₁, ha₁⟩ : ∃ a₁, (call.start w).acquisitions[w.acquisitions.length]? = some a₁ :=
    ⟨_, List.getElem?_concat_length⟩
  obtain ⟨a', ha', -, hstation, -⟩ := hsound.same_run during ha₁
  rw [h.acquisition, Option.some.injEq] at ha'
  subst ha'
  have hunfinished := hsound.not_isOver during ha₁ h.acquisition h.unfinished
  obtain ⟨d, hd⟩ := Option.isSome_iff_exists.mp h.works.isSome
  rw [hstation] at hd
  obtain ⟨haddress, hfollows⟩ := World.Follows.of_acquire hw call.client call.resource
    call.leaseTimeout call.token h.vacant ha₁ hunfinished hd
  refine ⟨d, hstation ▸ hd, ?_⟩
  rintro past ⟨rest, rfl⟩
  obtain ⟨b, hb, hmailbox, -, -⟩ := hsound.same_run past ha₁
  have hlast := h.acquisition
  rw [World.run_append] at hlast
  have hpast := (hsound.run past).not_isOver rest hb hlast h.unfinished
  have hspares : ∀ mv ∈ past, mv.Spares a₁.mailbox.address := fun mv hmv =>
    haddress ▸ h.spares mv (List.mem_append_left rest hmv)
  obtain ⟨d', hd'⟩ := hfollows.run hsound hspares (hstation ▸ h.works.of_append) hb hpast
  exact ⟨b, d', hmailbox ▸ haddress, hd'⟩

/-- How things stand at the station when a cancelled call has ended. -/
theorem Cancelled.ended (h : call.Cancelled w during a) (hw : (call.start w).Sound) {first : Nat}
    {d : Desk} (haddress : a.mailbox.address = call.address)
    (hend : ((call.start w).run during).Follows w.acquisitions.length first a d) :
    (call.stop w during).hub.desk? a.station = some d ∧ d.Clear call.client.requester ∧
      World.Due call.client.requester first d.coordinator.nextLease d.inbox d ∧
      (call.stop w during).Vacant call.address := by
  have hlast := hw.run during
  have hmoved := (World.moved_move hlast.hub (.act (.proceed w.acquisitions.length))).2
  obtain ⟨a', ha', houtcome⟩ := Option.bind_eq_some_iff.mp h.outcome
  have hover := Acquisition.isOver_of_outcome houtcome
  obtain ⟨cancelled, hwent⟩ := hlast.went_of_isOver hmoved hend.acquisition h.unfinished ha' hover
  obtain ⟨hstage, hdesks, hbox⟩ := hend.cleared hwent h.alarmed houtcome
  have hrequester : a.requester = call.client.requester := congrArg Address.requester haddress
  have hclear := hend.withdraws
  rw [World.Withdraws, hstage] at hclear
  rw [← hrequester, ← haddress]
  exact ⟨(hdesks _).trans hend.desk, hclear, hend.due hstage hbox,
    hend.vacant_moved hlast hmoved trivial ha' hover⟩

/-- A cancelled call leaves nothing behind, neither a request nor a grant, and takes nothing away
that was granted before. -/
theorem run_cancelled_leavesNothing (clock : Clock) (before : List Move)
    (h : call.Cancelled ((World.idle clock).run before) during a) :
    ∃ d d', call.LeavesNothing ((World.idle clock).run before) during a.station d d' := by
  generalize hw₀ : (World.idle clock).run before = w at h ⊢
  have hw : w.Sound := hw₀ ▸ (World.sound_idle clock).run before
  have hsound : (call.start w).Sound :=
    hw.move (.acquire call.client call.resource call.leaseTimeout call.token)
  have hstop : (call.stop w during).Sound := (hsound.run during).move _
  obtain ⟨d, hd, hfollows⟩ := h.follows hw
  obtain ⟨b, d', haddress, hend⟩ := hfollows during List.prefix_rfl
  have hsame := h.acquisition
  rw [hend.acquisition, Option.some.injEq] at hsame
  subst hsame
  obtain ⟨hended, hclear, hdue, hvacant⟩ := h.ended hsound haddress hend
  have hpool : b.station.pool = call.address.pool :=
    (hend.placed (hsound.run during)).pool_eq.trans (congrArg Address.pool haddress)
  refine ⟨d, d', hd, hended, ?_, ?_, ?_⟩
  · intro after d'' hspares hworks hd''
    exact hvacant.clear_run hstop hspares hworks hpool hended hd'' hclear
  · intro after d'' hworks hd'' htaken channel l hl hown
    have hrest := hdue.run hstop hworks hended hd''
    rw [List.drop_eq_nil_of_le htaken] at hrest
    exact hrest.spent (hstop.run after) hd'' hl hown
  · intro past hpast
    obtain ⟨b', d₁, -, hpresent⟩ := hfollows past hpast
    exact hpresent.gentle

/-- Somebody waits for the only slot, and its token fires. -/
def raced : Call := ⟨⟨"lab", "w2", 0, ⟨1, none, .plain, 10⟩⟩, "gpu", none, some 0⟩

/-- Somebody else has been granted the slot. -/
def beforeRace : List Move :=
  [.addToken, .acquire { raced.client with requester := "w1" } "gpu" none none,
    .act (.proceed 0), .act (.work ⟨⟨"lab", "gpu"⟩, 0⟩), .act (.proceed 0)]

/-- The slot is given back before the withdrawal is sent, and so the wait is granted meanwhile. -/
def duringRace : List Move :=
  let station : StationId := ⟨⟨"lab", "gpu"⟩, 0⟩
  [.act (.proceed 1), .act (.work station), .fire 0, .act (.proceed 1),
    .send station (.release (releaseChannel "w1") (some 0)), .act (.proceed 1),
    .act (.proceed 1), .act (.work station), .act (.work station), .act (.work station),
    .act (.proceed 1), .act (.proceed 1), .act (.proceed 1)]

/-- A grant that came in a race with the withdrawal is on its way back. -/
theorem run_cancelled_leavesNothing_raced :
    ∃ a, raced.Cancelled ((World.idle default).run beforeRace) duringRace a ∧
      ∃ d d', raced.LeavesNothing ((World.idle default).run beforeRace) duringRace a.station d
        d' := by
  have hraced : raced.Cancelled ((World.idle default).run beforeRace) duringRace
      ⟨⟨⟨"lab", "gpu"⟩, 0⟩, ⟨⟨⟨"lab", "gpu"⟩, "w2"⟩, 0⟩, 0, some 0, .collecting⟩ :=
    ⟨by decide, by decide, by decide, rfl, rfl, nofun, rfl⟩
  exact ⟨_, hraced, run_cancelled_leavesNothing default beforeRace hraced⟩

end Call

end LeasePool
