import LeasePool.Proofs.Traffic

/-!
Acquisitions that share an address. The newer one takes the route of the older one, which leaves
and withdraws its request; a withdrawal goes by requester, so that it may meet the newer one. Among
acquisitions without tokens, and without withdrawals from elsewhere, nobody is turned away but by
an older acquisition of the same address that has left.
-/
namespace LeasePool

/-- The stages of an acquisition whose token has fired. -/
def Stage.isWithdrawal : Stage → Bool
  | .withdrawing | .asking | .asked _ | .collecting | .returning .. => true
  | _ => false

/-- Moves that bring in no token and no withdrawal. -/
def Move.IsTokenless : Move → Prop
  | .acquire _ _ _ token => token = none
  | .send _ (.cancel _) | .ask _ (.cancel _) | .deliver _ .cancelled => False
  | _ => True

instance : DecidablePred Move.IsTokenless
  | .acquire _ _ _ token => inferInstanceAs (Decidable (token = none))
  | .send _ (.cancel _) | .ask _ (.cancel _) | .deliver _ .cancelled => isFalse id
  | .send _ (.request ..) | .send _ (.release ..) | .send _ (.resize _) | .send _ .status
  | .send _ .allocation | .ask _ (.request ..) | .ask _ (.release ..) | .ask _ (.resize _)
  | .ask _ .status | .ask _ .allocation | .deliver _ (.acquired ..) => isTrue trivial
  | .act _ | .abort _ | .addToken | .fire _ | .watch .. | .pass _ | .enlist .. | .stop _
  | .shutdown | .addHandle _ | .dropHandle _ | .spoil _ | .register _ | .close _ | .receive _ =>
    isTrue trivial

namespace Acquisition

variable {hub hub' : Hub} {a a' : Acquisition} {cancelled : Bool}

/-- A displaced acquisition leaves. -/
theorem Went.of_displaced (hwent : Went hub a cancelled hub' a') (hstage : a.stage = .displaced) :
    a' = { a with stage := .finished (.error (.mailboxClosed a.requester)) } := by
  cases hwent with
  | tells htells hpost hgoes => cases htells <;> simp_all
  | turns hturns hhub hgoes => cases hturns <;> simp_all
  | finds hfound hbox hhub hgoes | skips hfound hbox hhub hgoes => simp_all
  | ends hends hshut hhub hgoes => cases hends <;> simp_all
  | leaves hleaves hpost hshut hhub hgoes => exact hgoes

/-- How an acquisition without a token can go on. -/
theorem Went.tokenless (hwent : Went hub a cancelled hub' a') (hfired : cancelled = false)
    (hstage : a.stage.isWithdrawal = false) :
    a'.stage.isWithdrawal = false ∧
      (a'.stage = .finished (.error .cancelled) →
        ∃ rest, hub.exchange.box? a.mailbox = some (.cancelled :: rest)) ∧
      (a'.stage = .finished (.error (.mailboxClosed a'.requester)) → a.stage = .displaced) := by
  cases hwent with
  | tells htells hpost hgoes =>
    subst hgoes
    cases htells with
    | request h => exact ⟨rfl, nofun, nofun⟩
    | withdrawal h | query h | giveBack h => simp [h, Stage.isWithdrawal] at hstage
  | turns hturns hhub hgoes =>
    subst hgoes
    cases hturns with
    | alarmed h hcancelled => simp [hcancelled] at hfired
    | displaced h hunfired hended => exact ⟨rfl, nofun, nofun⟩
    | answered h hanswer | unreturned h hclosed => simp [h, Stage.isWithdrawal] at hstage
  | finds h hbox hhub hgoes | skips h hbox hhub hgoes => simp [h, Stage.isWithdrawal] at hstage
  | ends hends hshut hhub hgoes =>
    subst hgoes
    cases hends with
    | unavailable h hclosed => exact ⟨rfl, nofun, nofun⟩
    | granted h hunfired hbox => exact ⟨rfl, nofun, nofun⟩
    | turnedAway h hunfired hbox => exact ⟨rfl, fun _ => ⟨_, hbox⟩, nofun⟩
    | unheard h hclosed => rcases h with h | h <;> simp [h, Stage.isWithdrawal] at hstage
    | unanswered h hanswer hgone => simp [h, Stage.isWithdrawal] at hstage
    | cleared h hbox => simp [h, Stage.isWithdrawal] at hstage
    | displaced h hclosed => exact ⟨rfl, nofun, fun _ => h⟩
  | leaves h hpost hshut hhub hgoes =>
    subst hgoes
    exact ⟨rfl, nofun, fun _ => h⟩

end Acquisition

namespace World

variable {w w' : World} {mv : Move} {m : MailboxId}

/-- The acquisition with a mailbox has left, as the mailbox was replaced. -/
def Left (w : World) (m : MailboxId) : Prop :=
  ∃ a ∈ w.acquisitions, a.mailbox = m ∧ a.stage = .finished (.error (.mailboxClosed a.requester))

/-- An older acquisition at the address of a mailbox has left. -/
def LeftBefore (w : World) (m : MailboxId) : Prop := ∃ n < m.number, w.Left ⟨m.address, n⟩

theorem Left.moved (h : w.Left m) (hw : w.Sound) (hmoved : Moved w mv w') : w'.Left m := by
  obtain ⟨a, ha, hmailbox, hstage⟩ := h
  obtain ⟨n, hn⟩ := List.mem_iff_getElem?.mp ha
  have hover : a.isOver = true := by rw [Acquisition.isOver, hstage]
  cases hw.fares hmoved hn with
  | rests ha' hkept => exact ⟨a, List.mem_of_getElem? ha', hmailbox, hstage⟩
  | goes hmove hwent ha' =>
    rw [hwent.not_isOver] at hover
    cases hover
  | stops hmove hopen hshut ha' =>
    rw [hopen] at hover
    cases hover

theorem LeftBefore.moved (h : w.LeftBefore m) (hw : w.Sound) (hmoved : Moved w mv w') :
    w'.LeftBefore m := by
  obtain ⟨n, hn, hleft⟩ := h
  exact ⟨n, hn, hleft.moved hw hmoved⟩

/-- All acquisitions are without tokens, and every withdrawal comes from one that has left. -/
structure Tokenless (w : World) : Prop where
  plain : ∀ a ∈ w.acquisitions, a.token = none ∧ a.stage.isWithdrawal = false
  replaced : ∀ m, w.Left m → m.number + 1 < w.hub.exchange.registered m.address
  inbox : ∀ id d e q, w.hub.desk? id = some d → e ∈ d.inbox → e.message = .cancel q →
    ∃ n, w.Left ⟨⟨id.pool, q⟩, n⟩
  box : ∀ m rs, w.hub.exchange.box? m = some rs → .cancelled ∈ rs → w.LeftBefore m
  outcome : ∀ a ∈ w.acquisitions, a.stage = .finished (.error .cancelled) →
    w.LeftBefore a.mailbox

theorem tokenless_idle (clock : Clock) : (idle clock).Tokenless := by
  constructor <;> simp [idle, Hub.idle, Left, Hub.desk?, Hub.station?, Exchange.box?,
    Exchange.idle, Exchange.row, MailboxRow.unused]

/-- A withdrawal that is sent comes from an acquisition that leaves. -/
theorem Sends.left_of_cancel {id : StationId} {e : Envelope} {q : String}
    (hsends : w.Sends mv id e w') (h : w.Tokenless) (hw : w.Sound) (hmv : mv.IsTokenless)
    (hcancel : e.message = .cancel q) : ∃ n, w'.Left ⟨⟨id.pool, q⟩, n⟩ := by
  cases hsends with
  | outsider hmove hsame =>
    rw [hcancel] at hmove
    rcases hmove with rfl | rfl <;> cases hmv
  | @acquisition n a a' hmove ha ha' hid hwent htold =>
    have hmem := List.mem_of_getElem? ha
    rcases htold with ⟨next, htells⟩ | ⟨hstage, rfl⟩
    · cases htells with
      | withdrawal hstage =>
        have hplain := (h.plain a hmem).2
        rw [hstage] at hplain
        cases hplain
      | request | query | giveBack => cases hcancel
    · have hgone := hwent.of_displaced hstage
      refine ⟨a.mailbox.number, a', List.mem_of_getElem? ha', ?_, ?_⟩
      · rw [hgone, ← hid, (hw.placed a hmem).pool_eq, ← Message.cancel.inj hcancel]
        rfl
      · rw [hgone]
        rfl

namespace Tokenless

theorem isCancelled_eq {a : Acquisition} (h : w.Tokenless) (ha : a ∈ w.acquisitions) :
    w.isCancelled a = false := by
  rw [isCancelled, (h.plain a ha).1]
  rfl

theorem plain_moved (h : w.Tokenless) (hw : w.Sound) (hmoved : Moved w mv w')
    (hmv : mv.IsTokenless) :
    ∀ a ∈ w'.acquisitions, a.token = none ∧ a.stage.isWithdrawal = false := by
  intro a ha
  obtain ⟨n, hn⟩ := List.mem_iff_getElem?.mp ha
  cases hold : w.acquisitions[n]? with
  | none =>
    have harrives := (hmoved.arrives hold hn).1
    obtain ⟨client, resource, leaseTimeout, rfl, -⟩ := harrives.move_eq
    refine ⟨hmv, ?_⟩
    rcases harrives.outcome with ⟨hstage, -⟩ | ⟨⟨_ | _, hstage⟩, -⟩ <;> rw [hstage] <;> rfl
  | some b =>
    have hb := List.mem_of_getElem? hold
    obtain ⟨htoken, hstage⟩ := h.plain b hb
    cases hw.fares hmoved hold with
    | rests ha' hkept =>
      rw [hn, Option.some.injEq] at ha'
      exact ha' ▸ ⟨htoken, hstage⟩
    | goes hmove hwent ha' =>
      rw [hn, Option.some.injEq] at ha'
      subst ha'
      exact ⟨hwent.same.2.2.trans htoken, (hwent.tokenless (h.isCancelled_eq hb) hstage).1⟩
    | stops hmove hopen hshut ha' =>
      rw [hn, Option.some.injEq] at ha'
      exact ha' ▸ ⟨htoken, rfl⟩

/-- Who has left now has left before, or was displaced. -/
theorem left_cases (h : w.Tokenless) (hw : w.Sound) (hmoved : Moved w mv w') (hleft : w'.Left m) :
    w.Left m ∨ ∃ a ∈ w.acquisitions, a.mailbox = m ∧ a.stage = .displaced := by
  obtain ⟨a, ha, hmailbox, hstage⟩ := hleft
  obtain ⟨n, hn⟩ := List.mem_iff_getElem?.mp ha
  cases hold : w.acquisitions[n]? with
  | none =>
    rcases (hmoved.arrives hold hn).1.outcome with ⟨hnew, -⟩ | ⟨⟨_ | _, hnew⟩, -⟩ <;>
      rw [hnew] at hstage <;> cases hstage
  | some b =>
    have hb := List.mem_of_getElem? hold
    cases hw.fares hmoved hold with
    | rests ha' hkept =>
      rw [hn, Option.some.injEq] at ha'
      subst ha'
      exact Or.inl ⟨a, hb, hmailbox, hstage⟩
    | goes hmove hwent ha' =>
      rw [hn, Option.some.injEq] at ha'
      subst ha'
      have hplain := hwent.tokenless (h.isCancelled_eq hb) (h.plain b hb).2
      exact Or.inr ⟨b, hb, hwent.same.1.symm.trans hmailbox, hplain.2.2 hstage⟩
    | stops hmove hopen hshut ha' =>
      rw [hn, Option.some.injEq] at ha'
      rw [ha'] at hstage
      cases hstage

theorem replaced_moved (h : w.Tokenless) (hw : w.Sound) (hmoved : Moved w mv w')
    (hleft : w'.Left m) : m.number + 1 < w'.hub.exchange.registered m.address := by
  refine Nat.lt_of_lt_of_le ?_ (hmoved.trades.registered_le hw.hub m.address)
  rcases h.left_cases hw hmoved hleft with hbefore | ⟨a, ha, rfl, hstage⟩
  · exact h.replaced m hbefore
  · obtain ⟨hbox, hroute⟩ := (hw.placed a ha).displaced hstage
    have hlt := (hw.placed a ha).lt
    rw [Ne, hw.hub.exchange.route_iff] at hroute
    refine Nat.lt_of_le_of_ne hlt fun heq => hroute ⟨heq, ?_⟩
    exact Option.isSome_of_eq_some hbox

theorem inbox_moved (h : w.Tokenless) (hw : w.Sound) (hmoved : Moved w mv w')
    (hmv : mv.IsTokenless) {id : StationId} {d : Desk} {e : Envelope} {q : String}
    (hd : w'.hub.desk? id = some d) (he : e ∈ d.inbox) (hcancel : e.message = .cancel q) :
    ∃ n, w'.Left ⟨⟨id.pool, q⟩, n⟩ := by
  have hbefore {d₁ : Desk} (hd₁ : w.hub.desk? id = some d₁) (he₁ : e ∈ d₁.inbox) :
      ∃ n, w'.Left ⟨⟨id.pool, q⟩, n⟩ := by
    obtain ⟨n, hleft⟩ := h.inbox id d₁ e q hd₁ he₁ hcancel
    exact ⟨n, hleft.moved hw hmoved⟩
  cases hmoved.attends hd with
  | opens hclosed hqueue hleases hinbox =>
    rw [hinbox] at he
    cases he
  | serves hdesk hserves =>
    cases hserves with
    | rests => exact hbefore hdesk he
    | takes hmove hc htakes hstep hexchange hanswers => exact hbefore hdesk (htakes.mem_of_rest he)
    | gets d hsends hquery =>
      rcases List.mem_append.mp he with hold | hnew
      · exact hbefore hdesk hold
      · rw [← List.mem_singleton.mp hnew] at hsends
        exact hsends.left_of_cancel h hw hmv hcancel

theorem box_moved (h : w.Tokenless) (hw : w.Sound) (hmoved : Moved w mv w')
    (hmv : mv.IsTokenless) {rs : List Response} (hbox : w'.hub.exchange.box? m = some rs)
    (hmem : .cancelled ∈ rs) : w'.LeftBefore m := by
  refine LeftBefore.moved ?_ hw hmoved
  cases hmoved.trades.fills hw.hub hbox with
  | rests hold => exact h.box m rs hold hmem
  | read hold hread =>
    rw [hread] at hmem
    exact h.box m _ hold (List.mem_of_mem_tail hmem)
  | opens hempty =>
    rw [hempty] at hmem
    cases hmem
  | outsider hmove hold hfills =>
    rw [hfills] at hmem
    rcases List.mem_append.mp hmem with hbefore | hnew
    · exact h.box m _ hold hbefore
    · rw [← List.mem_singleton.mp hnew] at hmove
      subst hmove
      cases hmv
  | @served id c c' inbox rest reach input query effects sent rs' hmove hc hdesk htakes hstep hsent
      hpool hnewest hold hfills hdesk' =>
    rw [hfills] at hmem
    rcases List.mem_append.mp hmem with hbefore | hnew
    · exact h.box m _ hold hbefore
    · have hdelivered := hsent.subset (Effect.mem_responses.mp hnew)
      obtain ⟨rfl, -⟩ := hstep.cancelled hdelivered
      obtain ⟨e, he, hcancel⟩ := htakes.mem_of_message
      obtain ⟨n, hleft⟩ := h.inbox id _ e _ hdesk he hcancel
      have haddress : (⟨id.pool, m.address.requester⟩ : Address) = m.address := by rw [hpool]
      rw [haddress] at hleft
      have hlt := h.replaced _ hleft
      have hlast := ((hw.hub.exchange.route_iff _ _).mp hnewest).1
      exact ⟨n, by simp only at hlt; omega, hleft⟩

theorem outcome_moved (h : w.Tokenless) (hw : w.Sound) (hmoved : Moved w mv w') {a : Acquisition}
    (ha : a ∈ w'.acquisitions) (hstage : a.stage = .finished (.error .cancelled)) :
    w'.LeftBefore a.mailbox := by
  refine LeftBefore.moved ?_ hw hmoved
  obtain ⟨n, hn⟩ := List.mem_iff_getElem?.mp ha
  cases hold : w.acquisitions[n]? with
  | none =>
    rcases (hmoved.arrives hold hn).1.outcome with ⟨hnew, -⟩ | ⟨⟨_ | _, hnew⟩, -⟩ <;>
      rw [hnew] at hstage <;> cases hstage
  | some b =>
    have hb := List.mem_of_getElem? hold
    cases hw.fares hmoved hold with
    | rests ha' hkept =>
      rw [hn, Option.some.injEq] at ha'
      subst ha'
      exact h.outcome a hb hstage
    | goes hmove hwent ha' =>
      rw [hn, Option.some.injEq] at ha'
      subst ha'
      have hplain := hwent.tokenless (h.isCancelled_eq hb) (h.plain b hb).2
      obtain ⟨rest, hbox⟩ := hplain.2.1 hstage
      rw [hwent.same.1]
      exact h.box b.mailbox _ hbox List.mem_cons_self
    | stops hmove hopen hshut ha' =>
      rw [hn, Option.some.injEq] at ha'
      rw [ha'] at hstage
      cases hstage

theorem move (h : w.Tokenless) (hw : w.Sound) (hmv : mv.IsTokenless) :
    (w.move mv).Tokenless := by
  have hmoved := (moved_move hw.hub mv).2
  constructor
  · exact h.plain_moved hw hmoved hmv
  · exact fun m hleft => h.replaced_moved hw hmoved hleft
  · exact fun id d e q hd he hcancel => h.inbox_moved hw hmoved hmv hd he hcancel
  · exact fun m rs hbox hmem => h.box_moved hw hmoved hmv hbox hmem
  · exact fun a ha hstage => h.outcome_moved hw hmoved ha hstage

theorem run (h : w.Tokenless) (hw : w.Sound) {moves : List Move}
    (hmoves : ∀ mv ∈ moves, mv.IsTokenless) : (w.run moves).Tokenless := by
  induction moves generalizing w with
  | nil => exact h
  | cons mv moves ih =>
    exact ih (h.move hw (hmoves mv List.mem_cons_self)) (hw.move mv)
      fun mv' hmv' => hmoves mv' (List.mem_cons_of_mem mv hmv')

end Tokenless

/-- Without tokens, and without withdrawals from elsewhere, an acquisition is turned away only if an
older one with the same address was replaced and has left. -/
theorem run_exists_left_of_cancelled (clock : Clock) (moves : List Move)
    (htokenless : ∀ mv ∈ moves, mv.IsTokenless) (a : Acquisition)
    (ha : a ∈ ((idle clock).run moves).acquisitions)
    (hcancelled : a.outcome? = some (.error .cancelled)) :
    ∃ z ∈ ((idle clock).run moves).acquisitions, z.mailbox.address = a.mailbox.address ∧
      z.mailbox.number < a.mailbox.number ∧
      z.outcome? = some (.error (.mailboxClosed z.requester)) := by
  have hrun := (tokenless_idle clock).run (sound_idle clock) htokenless
  obtain ⟨n, hn, z, hz, hmailbox, hleft⟩ :=
    hrun.outcome a ha (Acquisition.outcome?_eq_some.mp hcancelled)
  refine ⟨z, hz, ?_, ?_, Acquisition.outcome?_eq_some.mpr hleft⟩
  · rw [hmailbox]
  · rw [hmailbox]
    exact hn

/-- One slot is held; somebody waits for it and then acquires it again. The first of the two finds
its mailbox replaced, and its withdrawal is answered to the second. -/
def takeover : List Move :=
  let station : StationId := ⟨⟨"lab", "gpu"⟩, 0⟩
  let holder : Client := ⟨"lab", "w1", 0, ⟨1, none, .plain, 10⟩⟩
  let waiter : Client := { holder with requester := "w2" }
  [.acquire holder "gpu" none none, .act (.proceed 0), .act (.work station), .act (.proceed 0),
   .acquire waiter "gpu" none none, .act (.proceed 1), .act (.work station),
   .acquire waiter "gpu" none none, .act (.proceed 2), .act (.work station),
   .act (.proceed 1), .act (.proceed 1), .act (.work station), .act (.proceed 2)]

/-- An acquisition can be turned away although nobody but an acquisition withdraws anything. -/
theorem run_takeover_cancelled : (∀ mv ∈ takeover, mv.IsTokenless) ∧
    ((idle default).run takeover).acquisitions[2]?.bind Acquisition.outcome? =
      some (.error .cancelled) :=
  ⟨by decide, rfl⟩

/-- The acquisition that is turned away has an older one that has left. -/
theorem run_exists_left_of_cancelled_takeover :
    ∃ a ∈ ((idle default).run takeover).acquisitions,
      a.outcome? = some (.error .cancelled) ∧
      ∃ z ∈ ((idle default).run takeover).acquisitions,
        z.mailbox.address = a.mailbox.address ∧ z.mailbox.number < a.mailbox.number ∧
        z.outcome? = some (.error (.mailboxClosed z.requester)) :=
  ⟨((idle default).run takeover).acquisitions.get ⟨2, by decide⟩, List.get_mem _ _, rfl,
    run_exists_left_of_cancelled default takeover (by decide) _ (List.get_mem _ _) rfl⟩

end World

end LeasePool
