import LeasePool.Acquisition
import LeasePool.Proofs.Desks

/-!
What one step of an acquisition can do. It tells its station something and goes on, it turns to
another stage without being noticed, it takes a response out of its mailbox, or it ends and closes
its mailbox. The mailboxes of others are left alone by all of that.
-/
namespace LeasePool.Acquisition

variable {hub hub' : Hub} {a a' : Acquisition} {cancelled : Bool}

/-- What an acquisition tells its station in a stage, and the stage that follows. -/
inductive Tells (a : Acquisition) (asked : Nat) : Envelope → Stage → Prop where
  | request (hstage : a.stage = .requesting) :
      Tells a asked ⟨.request a.requester a.priority, none⟩ .waiting
  | withdrawal (hstage : a.stage = .withdrawing) :
      Tells a asked ⟨.cancel a.requester, none⟩ .asking
  | query (hstage : a.stage = .asking) : Tells a asked ⟨.status, some asked⟩ (.asked asked)
  | giveBack {channel : String} {lease : Nat} (hstage : a.stage = .returning channel lease) :
      Tells a asked ⟨.release channel (some lease), none⟩ .collecting

/-- Nothing waits in the mailbox, and nothing can come any more. -/
def Deserted (a : Acquisition) (x : Exchange) : Prop :=
  x.box? a.mailbox = none ∨
    x.box? a.mailbox = some [] ∧ x.route? a.mailbox.address ≠ some a.mailbox.number

/-- The stages to which an acquisition turns by what it finds. -/
inductive Turns (hub : Hub) (a : Acquisition) (cancelled : Bool) : Stage → Prop where
  | alarmed (hstage : a.stage = .waiting) (hfired : cancelled = true) : Turns hub a cancelled
      .withdrawing
  | displaced (hstage : a.stage = .waiting) (hunfired : cancelled = false)
      (hended : a.Deserted hub.exchange) : Turns hub a cancelled .displaced
  | answered {query : Nat} (hstage : a.stage = .asked query)
      (hanswer : (hub.answers.get? query).isSome) : Turns hub a cancelled .collecting
  | unreturned {channel : String} {lease : Nat} (hstage : a.stage = .returning channel lease)
      (hclosed : hub.desk? a.station = none) : Turns hub a cancelled .collecting

/-- The outcomes with which an acquisition ends by what it finds. -/
inductive Ends (hub : Hub) (a : Acquisition) (cancelled : Bool) :
    Except ClientError Holding → Prop where
  | unavailable (hstage : a.stage = .requesting) (hclosed : hub.desk? a.station = none) :
      Ends hub a cancelled (.error (.pool (Hub.unavailable a.station.pool)))
  | granted {channel : String} {lease : Nat} {r : Resource} {rest : List Response}
      (hstage : a.stage = .waiting) (hunfired : cancelled = false)
      (hbox : hub.exchange.box? a.mailbox = some (.acquired channel lease r :: rest)) :
      Ends hub a cancelled (.ok ⟨a.station, channel, lease, r⟩)
  | turnedAway {rest : List Response} (hstage : a.stage = .waiting) (hunfired : cancelled = false)
      (hbox : hub.exchange.box? a.mailbox = some (.cancelled :: rest)) :
      Ends hub a cancelled (.error .cancelled)
  | unheard (hstage : a.stage = .withdrawing ∨ a.stage = .asking)
      (hclosed : hub.desk? a.station = none) : Ends hub a cancelled (.error .cancelled)
  | unanswered {query : Nat} (hstage : a.stage = .asked query)
      (hanswer : hub.answers.get? query = none)
      (hgone : ∀ id d, hub.desk? id = some d → ∀ e ∈ d.inbox, e.query ≠ some query) :
      Ends hub a cancelled (.error .cancelled)
  | cleared (hstage : a.stage = .collecting)
      (hbox : hub.exchange.box? a.mailbox = none ∨ hub.exchange.box? a.mailbox = some []) :
      Ends hub a cancelled (.error .cancelled)
  | displaced (hstage : a.stage = .displaced) (hclosed : hub.desk? a.station = none) :
      Ends hub a cancelled (.error (.mailboxClosed a.requester))

/-- What one step can come to. -/
inductive Went (hub : Hub) (a : Acquisition) (cancelled : Bool) (hub' : Hub) (a' : Acquisition) :
    Prop where
  | tells {e : Envelope} {next : Stage} (htells : a.Tells hub.asked e next)
      (hpost : Hub.Posted hub a.station e hub') (hgoes : a' = { a with stage := next })
  | turns {next : Stage} (hturns : a.Turns hub cancelled next) (hhub : hub' = hub)
      (hgoes : a' = { a with stage := next })
  | finds {channel : String} {lease : Nat} {r : Resource} {rest : List Response}
      (hstage : a.stage = .collecting)
      (hbox : hub.exchange.box? a.mailbox = some (.acquired channel lease r :: rest))
      (hhub : hub' = { hub with exchange := (hub.exchange.receive a.mailbox).1 })
      (hgoes : a' = { a with stage := .returning channel lease })
  | skips {rest : List Response} (hstage : a.stage = .collecting)
      (hbox : hub.exchange.box? a.mailbox = some (.cancelled :: rest))
      (hhub : hub' = { hub with exchange := (hub.exchange.receive a.mailbox).1 })
      (hgoes : a' = a)
  | ends {outcome : Except ClientError Holding} {x : Exchange}
      (hends : a.Ends hub cancelled outcome) (hshut : Exchange.Shut a.mailbox hub.exchange x)
      (hhub : hub' = { hub with exchange := x })
      (hgoes : a' = { a with stage := .finished outcome })
  | leaves {hub₁ : Hub} {x : Exchange} (hstage : a.stage = .displaced)
      (hpost : Hub.Posted hub a.station ⟨.cancel a.requester, none⟩ hub₁)
      (hshut : Exchange.Shut a.mailbox hub₁.exchange x)
      (hhub : hub' = { hub₁ with exchange := x })
      (hgoes : a' = { a with stage := .finished (.error (.mailboxClosed a.requester)) })

/-! ### The cases of a step -/

theorem deserted_of_ended {x : Exchange} (hended : (x.receive a.mailbox).2 = .ended) :
    a.Deserted x := by
  rw [Exchange.receive_snd] at hended
  unfold Deserted
  rcases hbox : x.box? a.mailbox with _ | _ | ⟨r, rest⟩
  · exact Or.inl rfl
  · rw [hbox] at hended
    by_cases hroute : x.route? a.mailbox.address = some a.mailbox.number
    · simp [hroute] at hended
    · exact Or.inr ⟨rfl, hroute⟩
  · rw [hbox] at hended
    cases hended

theorem box?_of_response {x : Exchange} {r : Response}
    (hreceived : (x.receive a.mailbox).2 = .response r) :
    ∃ rest, x.box? a.mailbox = some (r :: rest) := by
  rw [Exchange.receive_snd] at hreceived
  rcases hbox : x.box? a.mailbox with _ | _ | ⟨r', rest⟩
  · rw [hbox] at hreceived
    cases hreceived
  · rw [hbox] at hreceived
    by_cases hroute : x.route? a.mailbox.address = some a.mailbox.number <;>
      simp [hroute] at hreceived
  · rw [hbox] at hreceived
    cases hreceived
    exact ⟨rest, rfl⟩

theorem box?_of_nothing {x : Exchange}
    (hreceived : (x.receive a.mailbox).2 = .empty ∨ (x.receive a.mailbox).2 = .ended) :
    x.box? a.mailbox = none ∨ x.box? a.mailbox = some [] := by
  rw [Exchange.receive_snd] at hreceived
  rcases hbox : x.box? a.mailbox with _ | _ | ⟨r, rest⟩
  · exact Or.inl rfl
  · exact Or.inr rfl
  · rw [hbox] at hreceived
    rcases hreceived with h | h <;> cases h

/-- A query that was dropped has no answer and waits nowhere. -/
theorem gone_of_dropped {query : Nat} (hdropped : hub.inquiry query = .dropped) :
    hub.answers.get? query = none ∧
      ∀ id d, hub.desk? id = some d → ∀ e ∈ d.inbox, e.query ≠ some query := by
  unfold Hub.inquiry at hdropped
  split at hdropped
  · cases hdropped
  · refine ⟨‹_›, fun id d hdesk e he hquery => ?_⟩
    split at hdropped
    · cases hdropped
    case isFalse hnone =>
      unfold Hub.desk? at hdesk
      obtain ⟨s, hs, hd⟩ := Option.bind_eq_some_iff.mp hdesk
      unfold Station.desk? at hd
      split at hd
      · cases hd
      · rw [← Option.some.inj hd] at he
        refine hnone (List.any_eq_true.mpr ⟨(id, s), Assoc.mem_of_get? hs, ?_⟩)
        exact List.any_eq_true.mpr ⟨e, he, by simp [hquery]⟩

theorem isSome_of_answered {query : Nat} {answer : Answer}
    (hanswered : hub.inquiry query = .answered answer) : (hub.answers.get? query).isSome := by
  unfold Hub.inquiry at hanswered
  split at hanswered
  case h_1 answer' hanswer => rw [hanswer]; rfl
  case h_2 => split at hanswered <;> cases hanswered

theorem went_of_requesting (hstage : a.stage = .requesting)
    (hstep : a.step? hub cancelled = some (hub', a')) :
    Went hub a cancelled hub' a' ∧ (hub.Sound → hub'.Sound) := by
  simp only [step?, hstage] at hstep
  split at hstep
  case h_1 hub₁ hsend =>
    obtain ⟨rfl, rfl⟩ := Prod.mk.inj (Option.some.inj hstep)
    exact ⟨.tells (.request hstage) (Hub.posted_send hsend) rfl, fun h => h.send hsend⟩
  case h_2 => cases hstep
  case h_3 hsend =>
    obtain ⟨rfl, rfl⟩ := Prod.mk.inj (Option.some.inj hstep)
    have hclosed := Hub.desk?_of_refused hsend
    exact ⟨.ends (.unavailable hstage hclosed) (Exchange.shut_close _ _) rfl rfl,
      fun h => h.withExchange (h.exchange.close _)⟩

theorem went_of_waiting (hstage : a.stage = .waiting)
    (hstep : a.step? hub cancelled = some (hub', a')) :
    Went hub a cancelled hub' a' ∧ (hub.Sound → hub'.Sound) := by
  simp only [step?, hstage] at hstep
  split at hstep
  case isTrue hfired =>
    obtain ⟨rfl, rfl⟩ := Prod.mk.inj (Option.some.inj hstep)
    exact ⟨.turns (.alarmed hstage hfired) rfl rfl, id⟩
  case isFalse hunfired =>
    have hunfired : cancelled = false := by simpa using hunfired
    split at hstep
    case h_1 x channel lease r hreceive =>
      obtain ⟨rfl, rfl⟩ := Prod.mk.inj (Option.some.inj hstep)
      obtain ⟨rest, hbox⟩ := box?_of_response (congrArg Prod.snd hreceive)
      have hx : (hub.exchange.receive a.mailbox).1 = x := congrArg Prod.fst hreceive
      subst hx
      exact ⟨.ends (.granted hstage hunfired hbox) (Exchange.shut_receive_close _ _) rfl rfl,
        fun h => h.withExchange ((h.exchange.receive _).close _)⟩
    case h_2 x hreceive =>
      obtain ⟨rfl, rfl⟩ := Prod.mk.inj (Option.some.inj hstep)
      obtain ⟨rest, hbox⟩ := box?_of_response (congrArg Prod.snd hreceive)
      have hx : (hub.exchange.receive a.mailbox).1 = x := congrArg Prod.fst hreceive
      subst hx
      exact ⟨.ends (.turnedAway hstage hunfired hbox) (Exchange.shut_receive_close _ _) rfl rfl,
        fun h => h.withExchange ((h.exchange.receive _).close _)⟩
    case h_3 x hreceive =>
      obtain ⟨rfl, rfl⟩ := Prod.mk.inj (Option.some.inj hstep)
      have hended := deserted_of_ended (congrArg Prod.snd hreceive)
      exact ⟨.turns (.displaced hstage hunfired hended) rfl rfl, id⟩
    case h_4 => cases hstep

theorem went_of_withdrawing (hstage : a.stage = .withdrawing)
    (hstep : a.step? hub cancelled = some (hub', a')) :
    Went hub a cancelled hub' a' ∧ (hub.Sound → hub'.Sound) := by
  simp only [step?, hstage] at hstep
  split at hstep
  case h_1 hub₁ hsend =>
    obtain ⟨rfl, rfl⟩ := Prod.mk.inj (Option.some.inj hstep)
    exact ⟨.tells (.withdrawal hstage) (Hub.posted_send hsend) rfl, fun h => h.send hsend⟩
  case h_2 => cases hstep
  case h_3 hsend =>
    obtain ⟨rfl, rfl⟩ := Prod.mk.inj (Option.some.inj hstep)
    have hclosed := Hub.desk?_of_refused hsend
    exact ⟨.ends (.unheard (Or.inl hstage) hclosed) (Exchange.shut_close _ _) rfl rfl,
      fun h => h.withExchange (h.exchange.close _)⟩

theorem went_of_asking (hstage : a.stage = .asking)
    (hstep : a.step? hub cancelled = some (hub', a')) :
    Went hub a cancelled hub' a' ∧ (hub.Sound → hub'.Sound) := by
  simp only [step?, hstage] at hstep
  split at hstep
  case h_1 hub₁ hask =>
    obtain ⟨rfl, rfl⟩ := Prod.mk.inj (Option.some.inj hstep)
    exact ⟨.tells (.query hstage) (Hub.posted_ask hask) rfl, fun h => h.ask hask⟩
  case h_2 => cases hstep
  case h_3 hask =>
    obtain ⟨rfl, rfl⟩ := Prod.mk.inj (Option.some.inj hstep)
    have hclosed := Hub.desk?_of_ask_refused hask
    exact ⟨.ends (.unheard (Or.inr hstage) hclosed) (Exchange.shut_close _ _) rfl rfl,
      fun h => h.withExchange (h.exchange.close _)⟩

theorem went_of_asked {query : Nat} (hstage : a.stage = .asked query)
    (hstep : a.step? hub cancelled = some (hub', a')) :
    Went hub a cancelled hub' a' ∧ (hub.Sound → hub'.Sound) := by
  simp only [step?, hstage] at hstep
  split at hstep
  case h_1 answer hanswered =>
    obtain ⟨rfl, rfl⟩ := Prod.mk.inj (Option.some.inj hstep)
    exact ⟨.turns (.answered hstage (isSome_of_answered hanswered)) rfl rfl, id⟩
  case h_2 hdropped =>
    obtain ⟨rfl, rfl⟩ := Prod.mk.inj (Option.some.inj hstep)
    obtain ⟨hanswer, hgone⟩ := gone_of_dropped hdropped
    exact ⟨.ends (.unanswered hstage hanswer hgone) (Exchange.shut_close _ _) rfl rfl,
      fun h => h.withExchange (h.exchange.close _)⟩
  case h_3 => cases hstep

theorem went_of_collecting (hstage : a.stage = .collecting)
    (hstep : a.step? hub cancelled = some (hub', a')) :
    Went hub a cancelled hub' a' ∧ (hub.Sound → hub'.Sound) := by
  simp only [step?, hstage] at hstep
  split at hstep
  case h_1 x channel lease r hreceive =>
    obtain ⟨rfl, rfl⟩ := Prod.mk.inj (Option.some.inj hstep)
    obtain ⟨rest, hbox⟩ := box?_of_response (congrArg Prod.snd hreceive)
    have hx : (hub.exchange.receive a.mailbox).1 = x := congrArg Prod.fst hreceive
    subst hx
    exact ⟨.finds hstage hbox rfl rfl, fun h => h.withExchange (h.exchange.receive _)⟩
  case h_2 x hreceive =>
    obtain ⟨rfl, rfl⟩ := Prod.mk.inj (Option.some.inj hstep)
    obtain ⟨rest, hbox⟩ := box?_of_response (congrArg Prod.snd hreceive)
    have hx : (hub.exchange.receive a.mailbox).1 = x := congrArg Prod.fst hreceive
    subst hx
    exact ⟨.skips hstage hbox rfl rfl, fun h => h.withExchange (h.exchange.receive _)⟩
  case h_3 x hreceive =>
    obtain ⟨rfl, rfl⟩ := Prod.mk.inj (Option.some.inj hstep)
    have hbox := box?_of_nothing (Or.inl (congrArg Prod.snd hreceive))
    exact ⟨.ends (.cleared hstage hbox) (Exchange.shut_close _ _) rfl rfl,
      fun h => h.withExchange (h.exchange.close _)⟩
  case h_4 x hreceive =>
    obtain ⟨rfl, rfl⟩ := Prod.mk.inj (Option.some.inj hstep)
    have hbox := box?_of_nothing (Or.inr (congrArg Prod.snd hreceive))
    exact ⟨.ends (.cleared hstage hbox) (Exchange.shut_close _ _) rfl rfl,
      fun h => h.withExchange (h.exchange.close _)⟩

theorem went_of_returning {channel : String} {lease : Nat}
    (hstage : a.stage = .returning channel lease)
    (hstep : a.step? hub cancelled = some (hub', a')) :
    Went hub a cancelled hub' a' ∧ (hub.Sound → hub'.Sound) := by
  simp only [step?, hstage] at hstep
  split at hstep
  case h_1 hub₁ hsend =>
    obtain ⟨rfl, rfl⟩ := Prod.mk.inj (Option.some.inj hstep)
    exact ⟨.tells (.giveBack hstage) (Hub.posted_send hsend) rfl, fun h => h.send hsend⟩
  case h_2 => cases hstep
  case h_3 hsend =>
    obtain ⟨rfl, rfl⟩ := Prod.mk.inj (Option.some.inj hstep)
    have hclosed := Hub.desk?_of_refused hsend
    exact ⟨.turns (.unreturned hstage hclosed) rfl rfl, id⟩

theorem went_of_displaced (hstage : a.stage = .displaced)
    (hstep : a.step? hub cancelled = some (hub', a')) :
    Went hub a cancelled hub' a' ∧ (hub.Sound → hub'.Sound) := by
  simp only [step?, hstage] at hstep
  split at hstep
  case h_1 hub₁ hsend =>
    obtain ⟨rfl, rfl⟩ := Prod.mk.inj (Option.some.inj hstep)
    exact ⟨.leaves hstage (Hub.posted_send hsend) (Exchange.shut_close _ _) rfl rfl,
      fun h => (h.send hsend).withExchange ((h.send hsend).exchange.close _)⟩
  case h_2 => cases hstep
  case h_3 hsend =>
    obtain ⟨rfl, rfl⟩ := Prod.mk.inj (Option.some.inj hstep)
    have hclosed := Hub.desk?_of_refused hsend
    exact ⟨.ends (.displaced hstage hclosed) (Exchange.shut_close _ _) rfl rfl,
      fun h => h.withExchange (h.exchange.close _)⟩

/-- What a step comes to. -/
theorem went_of_step? (hstep : a.step? hub cancelled = some (hub', a')) :
    Went hub a cancelled hub' a' ∧ (hub.Sound → hub'.Sound) := by
  cases hstage : a.stage with
  | requesting => exact went_of_requesting hstage hstep
  | waiting => exact went_of_waiting hstage hstep
  | withdrawing => exact went_of_withdrawing hstage hstep
  | asking => exact went_of_asking hstage hstep
  | asked query => exact went_of_asked hstage hstep
  | collecting => exact went_of_collecting hstage hstep
  | returning channel lease => exact went_of_returning hstage hstep
  | displaced => exact went_of_displaced hstage hstep
  | finished outcome | aborted =>
    simp only [step?, hstage] at hstep
    cases hstep

/-! ### Where an acquisition stands -/

/-- Everything but the stage stays as it is. -/
theorem Went.same (hwent : Went hub a cancelled hub' a') :
    a'.mailbox = a.mailbox ∧ a'.station = a.station ∧ a'.token = a.token := by
  cases hwent with
  | tells htells hpost hgoes | turns hturns hhub hgoes | finds hstage hbox hhub hgoes
  | skips hstage hbox hhub hgoes | ends hends hshut hhub hgoes
  | leaves hstage hpost hshut hhub hgoes =>
    rw [hgoes]
    exact ⟨rfl, rfl, rfl⟩

theorem outcome?_eq_some {outcome : Except ClientError Holding} :
    a.outcome? = some outcome ↔ a.stage = .finished outcome := by
  unfold outcome?
  cases a.stage <;> simp

theorem isOver_of_outcome {outcome : Except ClientError Holding}
    (h : a.outcome? = some outcome) : a.isOver = true := by
  rw [isOver, outcome?_eq_some.mp h]

/-- An acquisition ends by what it finds, or leaves. -/
theorem Went.of_outcome {outcome : Except ClientError Holding}
    (hwent : Went hub a cancelled hub' a') (houtcome : a'.outcome? = some outcome) :
    a.Ends hub cancelled outcome ∧ (∀ id, hub'.desk? id = hub.desk? id) ∨
      a.stage = .displaced ∧ outcome = .error (.mailboxClosed a.requester) := by
  rw [outcome?_eq_some] at houtcome
  cases hwent with
  | tells htells hpost hgoes =>
    rw [hgoes] at houtcome
    cases htells <;> cases houtcome
  | turns hturns hhub hgoes =>
    rw [hgoes] at houtcome
    cases hturns <;> cases houtcome
  | skips hstage hbox hhub hgoes =>
    rw [hgoes, hstage] at houtcome
    cases houtcome
  | finds hstage hbox hhub hgoes =>
    rw [hgoes] at houtcome
    cases houtcome
  | ends hends hshut hhub hgoes =>
    rw [hgoes] at houtcome
    cases houtcome
    exact Or.inl ⟨hends, fun id => by rw [hhub]; rfl⟩
  | leaves hstage hpost hshut hhub hgoes =>
    rw [hgoes] at houtcome
    cases houtcome
    exact Or.inr ⟨hstage, rfl⟩

theorem Went.not_isOver (hwent : Went hub a cancelled hub' a') : a.isOver = false := by
  cases hwent with
  | tells htells hpost hgoes => cases htells <;> simp [isOver, *]
  | turns hturns hhub hgoes => cases hturns <;> simp [isOver, *]
  | ends hends hshut hhub hgoes =>
    cases hends with
    | unheard hstage hclosed => rcases hstage with h | h <;> simp [isOver, h]
    | _ => simp [isOver, *]
  | finds hstage hbox hhub hgoes | skips hstage hbox hhub hgoes
  | leaves hstage hpost hshut hhub hgoes => simp [isOver, hstage]

theorem Went.kept {m : MailboxId} (hwent : Went hub a cancelled hub' a') (hne : a.mailbox ≠ m) :
    Exchange.Kept m hub.exchange hub'.exchange := by
  cases hwent with
  | tells htells hpost hgoes =>
    rw [hpost.exchange_eq]
    exact .refl m _
  | turns hturns hhub hgoes =>
    rw [hhub]
    exact .refl m _
  | finds hstage hbox hhub hgoes | skips hstage hbox hhub hgoes =>
    rw [hhub]
    exact Exchange.kept_receive hne
  | ends hends hshut hhub hgoes =>
    rw [hhub]
    exact hshut.kept hne
  | leaves hstage hpost hshut hhub hgoes =>
    rw [hhub, ← hpost.exchange_eq]
    exact hshut.kept hne

/-- An acquisition has its own mailbox, which is open until it is over. One that was displaced has
nothing to expect there. -/
structure Placed (a : Acquisition) (x : Exchange) : Prop where
  pool_eq : a.station.pool = a.mailbox.address.pool
  lt : a.mailbox.number < x.registered a.mailbox.address
  open_eq : (x.box? a.mailbox).isSome = !a.isOver
  displaced : a.stage = .displaced →
    x.box? a.mailbox = some [] ∧ x.route? a.mailbox.address ≠ some a.mailbox.number

theorem Placed.kept {x x' : Exchange} (h : a.Placed x) (hkept : Exchange.Kept a.mailbox x x') :
    a.Placed x' := by
  refine ⟨h.pool_eq, Nat.lt_of_lt_of_le h.lt hkept.registered_le, ?_, fun hstage => ?_⟩
  · rw [hkept.isSome_box?]
    exact h.open_eq
  · obtain ⟨hbox, hroute⟩ := h.displaced hstage
    obtain ⟨rs, hbox', hnil⟩ := hkept.box
    refine ⟨?_, fun hroute' => hroute (hkept.route hroute')⟩
    rw [hbox', hbox, hnil hroute]
    rfl

theorem Tells.not_isOver {asked : Nat} {e : Envelope} {next : Stage}
    (htells : a.Tells asked e next) :
    ({ a with stage := next } : Acquisition).isOver = false ∧ next ≠ .displaced := by
  cases htells <;> exact ⟨rfl, by simp⟩

theorem Placed.went (h : a.Placed hub.exchange) (hwent : Went hub a cancelled hub' a') :
    a'.Placed hub'.exchange := by
  have hopen : (hub.exchange.box? a.mailbox).isSome = true := by
    rw [h.open_eq, hwent.not_isOver]
    rfl
  cases hwent with
  | tells htells hpost hgoes =>
    obtain ⟨hover, hne⟩ := htells.not_isOver
    rw [hgoes, hpost.exchange_eq]
    refine ⟨h.pool_eq, h.lt, ?_, fun hstage => absurd hstage hne⟩
    rw [hover]
    exact hopen
  | turns hturns hhub hgoes =>
    rw [hgoes, hhub]
    refine ⟨h.pool_eq, h.lt, ?_, fun hstage => ?_⟩
    · cases hturns <;> exact hopen
    · cases hturns with
      | displaced _ _ hended =>
        refine hended.resolve_left fun hnone => ?_
        rw [hnone] at hopen
        cases hopen
      | _ => cases hstage
  | finds hstage hbox hhub hgoes =>
    rw [hgoes, hhub]
    refine ⟨h.pool_eq, ?_, ?_, fun hstage => nomatch hstage⟩
    · exact Nat.lt_of_lt_of_eq h.lt (Exchange.registered_receive _ _ _).symm
    · rw [Exchange.box?_receive, if_pos rfl, Option.isSome_map]
      exact hopen
  | skips hstage hbox hhub hgoes =>
    rw [hgoes, hhub]
    refine ⟨h.pool_eq, ?_, ?_, fun hstage' => ?_⟩
    · exact Nat.lt_of_lt_of_eq h.lt (Exchange.registered_receive _ _ _).symm
    · rw [Exchange.box?_receive, if_pos rfl, Option.isSome_map]
      exact h.open_eq
    · rw [hstage] at hstage'
      cases hstage'
  | ends hends hshut hhub hgoes =>
    rw [hgoes, hhub]
    refine ⟨h.pool_eq, Nat.lt_of_lt_of_eq h.lt (hshut.registered_eq _).symm, ?_,
      fun hstage => nomatch hstage⟩
    rw [hshut.box_eq, if_pos rfl]
    rfl
  | leaves hstage hpost hshut hhub hgoes =>
    have hlt := h.lt
    rw [← hpost.exchange_eq] at hlt
    rw [hgoes, hhub]
    refine ⟨h.pool_eq, Nat.lt_of_lt_of_eq hlt (hshut.registered_eq _).symm, ?_,
      fun hstage => nomatch hstage⟩
    rw [hshut.box_eq, if_pos rfl]
    rfl

end LeasePool.Acquisition
