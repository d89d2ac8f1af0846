import LeasePool.Proofs.Mailboxes
import Mathlib.Data.List.Dedup

/-!
How the exchange routes, as its users see it. What has been done so far, with what came of it, tells
which mailbox of an address is the newest, which mailboxes are open, and what was put into each and
taken out. From this alone follows what any further use will find, whatever the order in which
mailboxes are opened, replaced and closed.
-/
namespace LeasePool.Exchange

/-- One way to use an exchange. -/
inductive Use where
  | register (a : Address)
  | close (m : MailboxId)
  | deliver (a : Address) (r : Response)
  | receive (m : MailboxId)
  | isRegistered (a : Address)
  | routeCount
deriving Repr, Inhabited

/-- What comes of a use. -/
inductive Finding where
  | opened (m : MailboxId)
  | closed
  | delivered
  | unreachable (e : Unreachable)
  | found (receipt : Receipt)
  | registered (b : Bool)
  | counted (n : Nat)
deriving Repr, Inhabited

def use (x : Exchange) : Use → Exchange × Finding
  | .register a => ((x.register a).1, .opened (x.register a).2)
  | .close m => (x.close m, .closed)
  | .deliver a r =>
    match x.deliver a r with
    | .ok x' => (x', .delivered)
    | .error e => (x, .unreachable e)
  | .receive m => ((x.receive m).1, .found (x.receive m).2)
  | .isRegistered a => (x, .registered (x.isRegistered a))
  | .routeCount => (x, .counted x.routeCount)

/-- A use and what came of it. -/
structure Act where
  use : Use
  finding : Finding
deriving Repr, Inhabited

namespace Act

def opened? (e : Act) : Option MailboxId :=
  match e.finding with
  | .opened m => some m
  | _ => none

def closed? (e : Act) : Option MailboxId :=
  match e.use with
  | .close m => some m
  | _ => none

def delivered? (e : Act) : Option (Address × Response) :=
  match e.use, e.finding with
  | .deliver a r, .delivered => some (a, r)
  | _, _ => none

def yielded? (e : Act) : Option (MailboxId × Response) :=
  match e.use, e.finding with
  | .receive m, .found (.response r) => some (m, r)
  | _, _ => none

end Act

/-- Everything that has been done, the latest first. -/
abbrev Past := List Act

namespace Past

/-- How many mailboxes an address has had. -/
def openings (past : Past) (a : Address) : Nat :=
  (past.filterMap Act.opened?).countP fun m => m.address = a

/-- The mailbox that was opened last at an address. -/
def newest? (past : Past) (a : Address) : Option MailboxId :=
  (past.filterMap Act.opened?).find? fun m => m.address = a

/-- Whether a mailbox was opened and has not been closed since. -/
def isOpen (m : MailboxId) : Past → Bool
  | [] => false
  | e :: past =>
    if e.opened? = some m then true
    else if e.closed? = some m then false
    else isOpen m past

/-- What was delivered while a mailbox was the newest of its address, in order. -/
def sent (m : MailboxId) : Past → List Response
  | [] => []
  | e :: past =>
    match e.delivered? with
    | some (a, r) => if newest? past a = some m then sent m past ++ [r] else sent m past
    | none => sent m past

/-- What a mailbox has yielded, in order. -/
def received (m : MailboxId) : Past → List Response
  | [] => []
  | e :: past =>
    match e.yielded? with
    | some (m', r) => if m' = m then received m past ++ [r] else received m past
    | none => received m past

/-- What a mailbox has still to yield. -/
def unread (m : MailboxId) (past : Past) : List Response :=
  (sent m past).drop (received m past).length

/-- The newest mailbox of an address, if it is open. -/
def target? (past : Past) (a : Address) : Option MailboxId :=
  (past.newest? a).filter fun m => isOpen m past

/-- The addresses whose newest mailbox is open. -/
def reachable (past : Past) : List Address :=
  ((past.filterMap Act.opened?).map MailboxId.address).dedup.filter fun a => (past.target? a).isSome

/-- What the next use will find. -/
def answer (past : Past) : Use → Finding
  | .register a => .opened ⟨a, past.openings a⟩
  | .close _ => .closed
  | .deliver a _ =>
    if (past.target? a).isSome then .delivered
    else .unreachable ⟨a.pool.coordinatorId, a.requester⟩
  | .receive m =>
    .found <|
      if isOpen m past then
        match unread m past with
        | r :: _ => .response r
        | [] => if past.newest? m.address = some m then .empty else .ended
      else .ended
  | .isRegistered a => .registered (past.target? a).isSome
  | .routeCount => .counted past.reachable.length

end Past

/-- Uses an exchange, and keeps a record of it. -/
def follow (state : Exchange × Past) (u : Use) : Exchange × Past :=
  ((state.1.use u).1, ⟨u, (state.1.use u).2⟩ :: state.2)

/-- A new exchange after some uses, and the record of them. -/
def after (uses : List Use) : Exchange × Past := uses.foldl follow (idle, [])

variable {x x' : Exchange} {past : Past} {a : Address} {m : MailboxId} {r : Response}

/-! ### Delivering -/

theorem deliver_eq (x : Exchange) (a : Address) (r : Response) :
    x.deliver a r = if (x.route? a).isSome then .ok (x.post a r)
      else .error ⟨a.pool.coordinatorId, a.requester⟩ := by
  unfold post deliver MailboxRow.deliver? route?
  cases (x.row a).route <;> rfl

theorem post_of_route?_eq_none (hroute : x.route? a = none) : x.post a r = x := by
  rw [post, deliver_eq, hroute]
  rfl

theorem use_deliver (x : Exchange) (a : Address) (r : Response) :
    x.use (.deliver a r) = (x.post a r, if (x.route? a).isSome then .delivered
      else .unreachable ⟨a.pool.coordinatorId, a.requester⟩) := by
  unfold use
  dsimp only
  rw [deliver_eq]
  cases hroute : x.route? a with
  | some n => rfl
  | none =>
    rw [post_of_route?_eq_none hroute]
    rfl

theorem nodup_keys_use (h : x.rows.keys.Nodup) (u : Use) : (x.use u).1.rows.keys.Nodup := by
  cases u with
  | deliver a r =>
    unfold use
    dsimp only
    cases hdeliver : x.deliver a r with
    | error e => exact h
    | ok x' =>
      unfold deliver at hdeliver
      split at hdeliver
      · rw [← Except.ok.inj hdeliver]
        exact Assoc.nodup_keys_put _ _ h
      · cases hdeliver
  | register a | close m | receive m => exact Assoc.nodup_keys_put _ _ h
  | isRegistered a | routeCount => exact h

/-! ### Records -/

/-- A record tells the state of the exchange. -/
structure Mirrors (x : Exchange) (past : Past) : Prop where
  sound : x.Sound
  keys_nodup : x.rows.keys.Nodup
  openings_eq : ∀ a, past.openings a = x.registered a
  newest_iff : ∀ a m, past.newest? a = some m ↔ m.address = a ∧ m.number + 1 = x.registered a
  box?_eq : ∀ m, x.box? m = if Past.isOpen m past then some (Past.unread m past) else none
  received_prefix : ∀ m, Past.received m past <+: Past.sent m past
  sent_of_unopened : ∀ m, x.registered m.address ≤ m.number → Past.sent m past = []

namespace Mirrors

theorem idle : Mirrors .idle [] where
  sound := sound_idle
  keys_nodup := List.nodup_nil
  openings_eq _ := rfl
  newest_iff a m := by simp [Past.newest?, registered, Exchange.idle, row, MailboxRow.unused]
  box?_eq _ := rfl
  received_prefix _ := List.prefix_refl _
  sent_of_unopened _ _ := rfl

theorem received_append_unread (h : Mirrors x past) (m : MailboxId) :
    Past.received m past ++ Past.unread m past = Past.sent m past :=
  List.prefix_iff_eq_append.mp (h.received_prefix m)

theorem target?_eq (h : Mirrors x past) (a : Address) :
    past.target? a = (x.route? a).map (MailboxId.mk a) := by
  refine Option.ext fun m => ?_
  rw [Past.target?, Option.filter_eq_some_iff, h.newest_iff, Option.map_eq_some_iff]
  have hopen : Past.isOpen m past = (x.box? m).isSome := by
    rw [h.box?_eq]
    cases Past.isOpen m past <;> rfl
  rw [hopen]
  constructor
  · rintro ⟨⟨rfl, hnumber⟩, hbox⟩
    exact ⟨m.number, (h.sound.route_iff _ _).mpr ⟨hnumber, hbox⟩, rfl⟩
  · rintro ⟨n, hroute, rfl⟩
    obtain ⟨hnumber, hbox⟩ := (h.sound.route_iff a n).mp hroute
    exact ⟨⟨rfl, hnumber⟩, hbox⟩

theorem isSome_target? (h : Mirrors x past) (a : Address) :
    (past.target? a).isSome = (x.route? a).isSome := by
  rw [h.target?_eq, Option.isSome_map]

theorem routeCount_eq (h : Mirrors x past) : x.routeCount = past.reachable.length := by
  have hrows : x.routeCount =
      ((x.rows.filter fun entry => entry.2.route.isSome).map Prod.fst).length := by
    rw [List.length_map, ← List.countP_eq_length_filter]
    rfl
  have hkeys : ((x.rows.filter fun entry => entry.2.route.isSome).map Prod.fst).Nodup :=
    h.keys_nodup.sublist (List.filter_sublist.map Prod.fst)
  have hnodup : past.reachable.Nodup := (List.nodup_dedup _).filter _
  rw [hrows]
  refine ((List.perm_ext_iff_of_nodup hkeys hnodup).mpr fun a => ?_).length_eq
  rw [Past.reachable, List.mem_filter, List.mem_dedup, h.isSome_target?]
  constructor
  · intro hmem
    obtain ⟨⟨a, row⟩, hentry, rfl⟩ := List.mem_map.mp hmem
    obtain ⟨hmem, hroute⟩ := List.mem_filter.mp hentry
    have hopen : (x.route? a).isSome := by
      rw [route?, Exchange.row, Assoc.get?_of_mem h.keys_nodup hmem]
      exact hroute
    refine ⟨?_, hopen⟩
    obtain ⟨m, hm⟩ := Option.isSome_iff_exists.mp ((h.isSome_target? a).trans hopen)
    obtain ⟨hnewest, -⟩ := Option.filter_eq_some_iff.mp hm
    exact List.mem_map.mpr
      ⟨m, List.mem_of_find?_eq_some hnewest, by simpa using List.find?_some hnewest⟩
  · rintro ⟨-, hopen⟩
    rw [route?, Exchange.row] at hopen
    cases hrow : x.rows.get? a with
    | none =>
      rw [hrow] at hopen
      cases hopen
    | some row =>
      rw [hrow] at hopen
      exact List.mem_map.mpr ⟨(a, row), List.mem_filter.mpr ⟨Assoc.mem_of_get? hrow, hopen⟩, rfl⟩

/-- The record foretells what a use will find. -/
theorem finding_eq (h : Mirrors x past) (u : Use) : (x.use u).2 = past.answer u := by
  cases u with
  | register a =>
    rw [Past.answer, h.openings_eq]
    rfl
  | close m => rfl
  | deliver a r => rw [use_deliver, Past.answer, h.isSome_target?]
  | receive m =>
    unfold use Past.answer
    dsimp only
    rw [receive_snd, h.box?_eq]
    cases hopen : Past.isOpen m past with
    | false => rfl
    | true =>
      simp only [if_true]
      cases hunread : Past.unread m past with
      | cons r rest => rfl
      | nil =>
        have hbox : (x.box? m).isSome := by
          rw [h.box?_eq, hopen]
          rfl
        have hnewest : past.newest? m.address = some m ↔ x.route? m.address = some m.number := by
          rw [h.newest_iff, h.sound.route_iff]
          exact ⟨fun ⟨_, hnumber⟩ => ⟨hnumber, hbox⟩, fun ⟨hnumber, _⟩ => ⟨rfl, hnumber⟩⟩
        simp only [hnewest]
  | isRegistered a =>
    rw [Past.answer, h.isSome_target?]
    rfl
  | routeCount =>
    rw [Past.answer, ← h.routeCount_eq]
    rfl

/-- Some uses change nothing that a record tells. -/
theorem of_same {e : Act} (h : Mirrors x past) (hsound : x'.Sound) (hkeys : x'.rows.keys.Nodup)
    (hregistered : ∀ a, x'.registered a = x.registered a) (hbox : ∀ m, x'.box? m = x.box? m)
    (hopened : e.opened? = none) (hclosed : e.closed? = none) (hdelivered : e.delivered? = none)
    (hyielded : e.yielded? = none) : Mirrors x' (e :: past) := by
  have hopen (m : MailboxId) : Past.isOpen m (e :: past) = Past.isOpen m past := by
    rw [Past.isOpen, hopened, hclosed, if_neg nofun, if_neg nofun]
  have hsent (m : MailboxId) : Past.sent m (e :: past) = Past.sent m past := by
    rw [Past.sent, hdelivered]
  have hreceived (m : MailboxId) : Past.received m (e :: past) = Past.received m past := by
    rw [Past.received, hyielded]
  constructor
  · exact hsound
  · exact hkeys
  · intro a
    rw [Past.openings, List.filterMap_cons_none hopened, hregistered]
    exact h.openings_eq a
  · intro a m
    rw [Past.newest?, List.filterMap_cons_none hopened, hregistered]
    exact h.newest_iff a m
  · intro m
    rw [hbox, hopen, Past.unread, hsent, hreceived]
    exact h.box?_eq m
  · intro m
    rw [hsent, hreceived]
    exact h.received_prefix m
  · intro m hle
    rw [hregistered] at hle
    rw [hsent]
    exact h.sent_of_unopened m hle

theorem register (h : Mirrors x past) (a : Address) :
    Mirrors (x.register a).1 (⟨.register a, .opened ⟨a, x.registered a⟩⟩ :: past) := by
  have hopened : Act.opened? ⟨.register a, .opened ⟨a, x.registered a⟩⟩ =
    some ⟨a, x.registered a⟩ := rfl
  constructor
  · exact h.sound.register a
  · exact nodup_keys_use h.keys_nodup (.register a)
  · intro b
    rw [registered_register, Past.openings, List.filterMap_cons_some hopened, List.countP_cons]
    by_cases hab : a = b <;> simp [hab, ← h.openings_eq, Past.openings]
  · intro b m
    rw [registered_register, Past.newest?, List.filterMap_cons_some hopened, List.find?_cons]
    by_cases hab : a = b
    · subst hab
      simp only [decide_true, if_true, Option.some.injEq, Nat.add_right_cancel_iff]
      constructor
      · rintro rfl
        exact ⟨rfl, rfl⟩
      · rintro ⟨rfl, hnumber⟩
        rw [← hnumber]
    · simp only [hab, decide_false, if_false]
      exact h.newest_iff b m
  · intro m
    rw [box?_register, Past.isOpen, hopened]
    by_cases hm : ⟨a, x.registered a⟩ = m
    · subst hm
      have hnone : Past.sent ⟨a, x.registered a⟩ past = [] :=
        h.sent_of_unopened _ (Nat.le_refl _)
      rw [if_pos rfl, if_pos rfl, if_pos rfl, Past.unread, Past.sent]
      simp only [Act.delivered?, hnone, List.drop_nil]
    · have hne : ¬ some (⟨a, x.registered a⟩ : MailboxId) = some m := fun heq =>
        hm (Option.some.inj heq)
      rw [if_neg hm, if_neg hne]
      exact h.box?_eq m
  · exact h.received_prefix
  · intro m hle
    rw [registered_register] at hle
    refine h.sent_of_unopened m (Nat.le_trans ?_ hle)
    split
    · exact Nat.le_succ _
    · exact Nat.le_refl _

theorem close (h : Mirrors x past) (m : MailboxId) :
    Mirrors (x.close m) (⟨.close m, .closed⟩ :: past) := by
  constructor
  · exact h.sound.close m
  · exact nodup_keys_use h.keys_nodup (.close m)
  · intro a
    rw [registered_close]
    exact h.openings_eq a
  · intro a m'
    rw [registered_close]
    exact h.newest_iff a m'
  · intro m'
    have hopen : Past.isOpen m' (⟨.close m, .closed⟩ :: past) =
      if some m = some m' then false else Past.isOpen m' past := rfl
    rw [box?_close, hopen]
    by_cases hm : m = m'
    · rw [if_pos hm, if_pos (congrArg some hm)]
      rfl
    · have hne : ¬ some m = some m' := fun heq => hm (Option.some.inj heq)
      rw [if_neg hm, if_neg hne]
      exact h.box?_eq m'
  · exact h.received_prefix
  · intro m' hle
    rw [registered_close] at hle
    exact h.sent_of_unopened m' hle

theorem deliver (h : Mirrors x past) {n : Nat} (hroute : x.route? a = some n) (r : Response) :
    Mirrors (x.post a r) (⟨.deliver a r, .delivered⟩ :: past) := by
  have hnewest (m : MailboxId) :
      past.newest? a = some m ↔ a = m.address ∧ x.route? a = some m.number := by
    rw [h.newest_iff, hroute, Option.some.injEq, ← ((h.sound.route_iff a n).mp hroute).1,
      Nat.add_right_cancel_iff]
    exact ⟨fun ⟨hm, hn⟩ => ⟨hm.symm, hn.symm⟩, fun ⟨hm, hn⟩ => ⟨hm.symm, hn.symm⟩⟩
  have hsent (m : MailboxId) : Past.sent m (⟨.deliver a r, .delivered⟩ :: past) =
      if past.newest? a = some m then Past.sent m past ++ [r] else Past.sent m past := rfl
  constructor
  · exact h.sound.post a r
  · have hkeys := nodup_keys_use h.keys_nodup (.deliver a r)
    rwa [use_deliver] at hkeys
  · intro b
    rw [registered_post]
    exact h.openings_eq b
  · intro b m
    rw [registered_post]
    exact h.newest_iff b m
  · intro m
    have hopen : Past.isOpen m (⟨.deliver a r, .delivered⟩ :: past) = Past.isOpen m past := rfl
    have hreceived : Past.received m (⟨.deliver a r, .delivered⟩ :: past) =
      Past.received m past := rfl
    rw [h.sound.box?_post, h.box?_eq, hopen, Past.unread, Past.unread, hsent, hreceived]
    by_cases hm : past.newest? a = some m
    · rw [if_pos ((hnewest m).mp hm), if_pos hm,
        List.drop_append_of_le_length (h.received_prefix m).length_le]
      cases Past.isOpen m past <;> rfl
    · rw [if_neg fun hr => hm ((hnewest m).mpr hr), if_neg hm]
  · intro m
    rw [hsent]
    split
    · exact (h.received_prefix m).trans (List.prefix_append _ _)
    · exact h.received_prefix m
  · intro m hle
    rw [registered_post] at hle
    rw [hsent, if_neg]
    · exact h.sent_of_unopened m hle
    · rw [h.newest_iff]
      rintro ⟨rfl, hnumber⟩
      exact absurd hle (Nat.not_le.mpr (hnumber ▸ Nat.lt_succ_self _))

theorem receive (h : Mirrors x past) {rest : List Response} (hbox : x.box? m = some (r :: rest)) :
    Mirrors (x.receive m).1 (⟨.receive m, .found (.response r)⟩ :: past) := by
  have hreceived (m' : MailboxId) :
      Past.received m' (⟨.receive m, .found (.response r)⟩ :: past) =
        if m = m' then Past.received m' past ++ [r] else Past.received m' past := rfl
  have hsent (m' : MailboxId) :
      Past.sent m' (⟨.receive m, .found (.response r)⟩ :: past) = Past.sent m' past := rfl
  obtain ⟨hopen, hunread⟩ : Past.isOpen m past = true ∧ Past.unread m past = r :: rest := by
    rw [h.box?_eq] at hbox
    split at hbox
    case isTrue hopen => exact ⟨hopen, Option.some.inj hbox⟩
    case isFalse => cases hbox
  constructor
  · exact h.sound.receive m
  · exact nodup_keys_use h.keys_nodup (.receive m)
  · intro a
    rw [registered_receive]
    exact h.openings_eq a
  · intro a m'
    rw [registered_receive]
    exact h.newest_iff a m'
  · intro m'
    have hsame : Past.isOpen m' (⟨.receive m, .found (.response r)⟩ :: past) =
      Past.isOpen m' past := rfl
    rw [box?_receive, hsame, Past.unread, hsent, hreceived]
    by_cases hm : m = m'
    · subst hm
      rw [if_pos rfl, if_pos rfl, hbox, hopen, if_pos rfl, List.length_append,
        List.length_singleton, ← List.tail_drop]
      exact congrArg (fun rs => some (List.tail rs)) hunread.symm
    · rw [if_neg hm, if_neg hm]
      exact h.box?_eq m'
  · intro m'
    rw [hsent, hreceived]
    split
    case isTrue hm =>
      subst hm
      refine ⟨rest, ?_⟩
      rw [List.append_assoc, List.singleton_append, ← hunread]
      exact h.received_append_unread m
    case isFalse => exact h.received_prefix m'
  · intro m' hle
    rw [registered_receive] at hle
    exact h.sent_of_unopened m' hle

/-- Whatever an exchange is used for, the record goes on to tell its state. -/
theorem use (h : Mirrors x past) (u : Use) : Mirrors (x.use u).1 (⟨u, (x.use u).2⟩ :: past) := by
  cases u with
  | register a => exact h.register a
  | close m => exact h.close m
  | deliver a r =>
    rw [use_deliver]
    cases hroute : x.route? a with
    | some n => exact h.deliver hroute r
    | none =>
      rw [post_of_route?_eq_none hroute]
      exact h.of_same h.sound h.keys_nodup (fun _ => rfl) (fun _ => rfl) rfl rfl rfl rfl
  | receive m =>
    have hfound : x.use (.receive m) = ((x.receive m).1, .found (x.receive m).2) := rfl
    rw [hfound, receive_snd]
    rcases hbox : x.box? m with _ | _ | ⟨r, rest⟩
    case some.cons => exact h.receive hbox
    all_goals
      have hsame (m' : MailboxId) : (x.receive m).1.box? m' = x.box? m' := by
        rw [box?_receive]
        split
        case isTrue hm =>
          rw [← hm, hbox]
          rfl
        case isFalse => rfl
      have hkeys := nodup_keys_use h.keys_nodup (.receive m)
      refine h.of_same (h.sound.receive m) hkeys (registered_receive x m) hsame ?_ rfl rfl ?_
    all_goals (dsimp only; first | rfl | (split <;> rfl))
  | isRegistered a | routeCount =>
    exact h.of_same h.sound h.keys_nodup (fun _ => rfl) (fun _ => rfl) rfl rfl rfl rfl

end Mirrors

theorem mirrors_after (uses : List Use) : Mirrors (after uses).1 (after uses).2 := by
  have hfollow (state : Exchange × Past) (h : Mirrors state.1 state.2) :
      Mirrors (uses.foldl follow state).1 (uses.foldl follow state).2 := by
    induction uses generalizing state with
    | nil => exact h
    | cons u uses ih => exact ih (follow state u) (h.use u)
  exact hfollow (idle, []) Mirrors.idle

/-- After any uses of an exchange, what they found foretells what the next one finds. A response is
appended to the newest mailbox of its address if that is open and to no other; else the exchange
stays as it is. Every mailbox has yielded, in order, what was delivered while it was the newest one
of its address, up to what waits in it. -/
theorem after_routes (uses : List Use) :
    let x := (after uses).1
    let past := (after uses).2
    (∀ u, (x.use u).2 = past.answer u) ∧
      (∀ m, x.box? m = if Past.isOpen m past then some (Past.unread m past) else none) ∧
      (∀ m, Past.received m past ++ Past.unread m past = Past.sent m past) ∧
      (∀ a r m, past.target? a = some m →
        (∀ m', (x.use (.deliver a r)).1.box? m' =
          if m = m' then (x.box? m').map (· ++ [r]) else x.box? m') ∧
        ∀ b, (x.use (.deliver a r)).1.route? b = x.route? b) ∧
      (∀ a r, past.target? a = none →
        x.use (.deliver a r) = (x, .unreachable ⟨a.pool.coordinatorId, a.requester⟩)) := by
  have h := mirrors_after uses
  refine ⟨h.finding_eq, h.box?_eq, h.received_append_unread, fun a r m htarget => ?_,
    fun a r htarget => ?_⟩
  · rw [h.target?_eq, Option.map_eq_some_iff] at htarget
    obtain ⟨n, hroute, rfl⟩ := htarget
    rw [use_deliver]
    refine ⟨fun m' => ?_, fun b => route?_post _ a b r⟩
    have hm : a = m'.address ∧ some n = some m'.number ↔ (⟨a, n⟩ : MailboxId) = m' := by
      rw [Option.some.injEq]
      exact ⟨fun ⟨ha, hn⟩ => by rw [ha, hn], fun heq => ⟨heq ▸ rfl, heq ▸ rfl⟩⟩
    rw [h.sound.box?_post, hroute]
    exact if_congr hm rfl rfl
  · rw [h.target?_eq, Option.map_eq_none_iff] at htarget
    rw [use_deliver, post_of_route?_eq_none htarget, htarget]
    rfl

/-- Two pools whose names read the same do not share mailboxes. -/
example :
    let pool : PoolName := ⟨"a", "bc"⟩
    let other : PoolName := ⟨"ab", "c"⟩
    pool.coordinatorId = other.coordinatorId ∧
      (after [.register ⟨pool, "r"⟩, .deliver ⟨other, "r"⟩ .cancelled]).2.map Act.finding =
        [.unreachable ⟨other.coordinatorId, "r"⟩, .opened ⟨⟨pool, "r"⟩, 0⟩] :=
  ⟨by decide, rfl⟩

end LeasePool.Exchange
