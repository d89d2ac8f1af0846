import LeasePool.Event
import LeasePool.Coordinator
import LeasePool.Exchange

/-!
What the operations of the exchange do to one mailbox. A mailbox is open from its registration
until it is closed; the route of an address leads to the newest mailbox as long as that is open, and
only there do responses arrive.
-/
namespace LeasePool

/-- The response that an effect delivers to a requester. -/
def Effect.responseTo? (q : String) : Effect → Option Response
  | .delivery requester r true => if requester = q then some r else none
  | _ => none

theorem Effect.mem_responses {q : String} {effects : List Effect} {r : Response} :
    r ∈ effects.filterMap (Effect.responseTo? q) ↔ .delivery q r true ∈ effects := by
  rw [List.mem_filterMap]
  constructor
  · rintro ⟨effect, hmem, heffect⟩
    rcases effect with ⟨requester, r', _ | _⟩ | _ | _ | _
    · cases heffect
    · simp only [Effect.responseTo?, Option.ite_none_right_eq_some, Option.some.injEq] at heffect
      rwa [← heffect.1, ← heffect.2]
    all_goals cases heffect
  · intro hmem
    exact ⟨_, hmem, if_pos rfl⟩

namespace Exchange

variable {x x' : Exchange} {a b : Address} {m m' : MailboxId} {r : Response}

/-- The responses that wait in an open mailbox. -/
def box? (x : Exchange) (m : MailboxId) : Option (List Response) :=
  (x.row m.address).boxes.get? m.number

/-- The number of the mailbox to which responses for an address go. -/
def route? (x : Exchange) (a : Address) : Option Nat := (x.row a).route

/-- How many mailboxes an address has had. -/
def registered (x : Exchange) (a : Address) : Nat := (x.row a).registered

/-- Numbers are given out in order, and the route leads to the newest mailbox while it is open. -/
structure Sound (x : Exchange) : Prop where
  route_iff : ∀ (a : Address) (n : Nat), x.route? a = some n ↔
    n + 1 = x.registered a ∧ (x.box? ⟨a, n⟩).isSome
  lt_registered : ∀ m, (x.box? m).isSome → m.number < x.registered m.address

theorem Sound.isSome_box? (h : x.Sound) {n : Nat} (hroute : x.route? a = some n) :
    (x.box? ⟨a, n⟩).isSome := ((h.route_iff a n).mp hroute).2

theorem Sound.not_registered (h : x.Sound) (hle : x.registered m.address ≤ m.number) :
    x.box? m = none := by
  cases hbox : x.box? m with
  | none => rfl
  | some rs =>
    have hlt := h.lt_registered m (Option.isSome_iff_exists.mpr ⟨rs, hbox⟩)
    exact absurd hlt (Nat.not_lt.mpr hle)

theorem sound_idle : idle.Sound where
  route_iff a n := by simp [route?, registered, box?, idle, row, MailboxRow.unused]
  lt_registered m h := by simp [box?, idle, row, MailboxRow.unused] at h

/-! ### Opening -/

theorem register_snd (x : Exchange) (a : Address) : (x.register a).2 = ⟨a, x.registered a⟩ := rfl

theorem registered_register (x : Exchange) (a b : Address) :
    (x.register a).1.registered b = if a = b then x.registered b + 1 else x.registered b := by
  unfold registered register
  rw [row_setRow]
  by_cases hab : a = b
  · subst hab
    simp [MailboxRow.register]
  · simp [hab]

theorem route?_register (x : Exchange) (a b : Address) :
    (x.register a).1.route? b = if a = b then some (x.registered b) else x.route? b := by
  unfold route? registered register
  rw [row_setRow]
  by_cases hab : a = b
  · subst hab
    simp [MailboxRow.register]
  · simp [hab]

theorem box?_register (x : Exchange) (a : Address) (m : MailboxId) :
    (x.register a).1.box? m = if ⟨a, x.registered a⟩ = m then some [] else x.box? m := by
  obtain ⟨b, n⟩ := m
  unfold box? registered register
  rw [row_setRow]
  by_cases hab : a = b
  · subst hab
    simp [MailboxRow.register, Assoc.get?_put]
  · simp [hab]

theorem Sound.register (h : x.Sound) (a : Address) : (x.register a).1.Sound := by
  constructor
  · intro b n
    rw [route?_register, registered_register, box?_register]
    by_cases hab : a = b
    · subst hab
      by_cases hn : x.registered a = n
      · simp [hn]
      · simp [hn, Ne.symm hn]
    · have hne : (⟨a, x.registered a⟩ : MailboxId) ≠ ⟨b, n⟩ := fun heq =>
        hab (congrArg MailboxId.address heq)
      rw [if_neg hab, if_neg hab, if_neg hne]
      exact h.route_iff b n
  · intro m hopen
    rw [box?_register] at hopen
    rw [registered_register]
    split at hopen
    case isTrue hm =>
      subst hm
      rw [if_pos rfl]
      exact Nat.lt_succ_self _
    case isFalse =>
      have hlt := h.lt_registered m hopen
      split
      · exact Nat.lt_succ_of_lt hlt
      · exact hlt

/-! ### Closing -/

theorem registered_close (x : Exchange) (m : MailboxId) (b : Address) :
    (x.close m).registered b = x.registered b := by
  unfold registered close
  rw [row_setRow]
  by_cases hab : m.address = b
  · subst hab
    simp [MailboxRow.close]
  · simp [hab]

theorem route?_close (x : Exchange) (m : MailboxId) (b : Address) :
    (x.close m).route? b =
      if m.address = b ∧ x.route? b = some m.number then none else x.route? b := by
  unfold route? close
  rw [row_setRow]
  by_cases hab : m.address = b
  · subst hab
    simp [MailboxRow.close]
  · simp [hab]

theorem box?_close (x : Exchange) (m m' : MailboxId) :
    (x.close m).box? m' = if m = m' then none else x.box? m' := by
  obtain ⟨a, n⟩ := m
  obtain ⟨b, n'⟩ := m'
  unfold box? close
  rw [row_setRow]
  by_cases hab : a = b
  · subst hab
    simp [MailboxRow.close, Assoc.get?_erase]
  · simp [hab]

theorem Sound.close (h : x.Sound) (m : MailboxId) : (x.close m).Sound := by
  constructor
  · intro b n
    rw [route?_close, registered_close, box?_close]
    by_cases hm : m = ⟨b, n⟩
    · subst hm
      by_cases hroute : x.route? b = some n <;> simp [hroute]
    · rw [if_neg hm, ← h.route_iff b n]
      split
      case isTrue hold =>
        have hn : x.route? b ≠ some n := fun hroute =>
          hm (MailboxId.mk.injEq .. ▸ ⟨hold.1, Option.some.inj (hold.2.symm.trans hroute)⟩)
        simp [hn]
      case isFalse => rfl
  · intro m' hopen
    rw [box?_close] at hopen
    rw [registered_close]
    split at hopen
    · cases hopen
    · exact h.lt_registered m' hopen

/-! ### Looking into a mailbox -/

theorem receive_eq (x : Exchange) (m : MailboxId) :
    x.receive m = (x.setRow m.address ((x.row m.address).receive m.number).1,
      ((x.row m.address).receive m.number).2) := rfl

theorem receive_snd (x : Exchange) (m : MailboxId) : (x.receive m).2 =
    match x.box? m with
    | some (r :: _) => .response r
    | some [] => if x.route? m.address = some m.number then .empty else .ended
    | none => .ended := by
  unfold box? route?
  rw [receive_eq, MailboxRow.receive]
  rcases (x.row m.address).boxes.get? m.number with _ | _ | _ <;> rfl

theorem registered_receive (x : Exchange) (m : MailboxId) (b : Address) :
    (x.receive m).1.registered b = x.registered b := by
  unfold registered
  rw [receive_eq, row_setRow, MailboxRow.receive]
  split
  case isTrue hab =>
    subst hab
    rcases (x.row m.address).boxes.get? m.number with _ | _ | _ <;> rfl
  case isFalse => rfl

theorem route?_receive (x : Exchange) (m : MailboxId) (b : Address) :
    (x.receive m).1.route? b = x.route? b := by
  unfold route?
  rw [receive_eq, row_setRow, MailboxRow.receive]
  split
  case isTrue hab =>
    subst hab
    rcases (x.row m.address).boxes.get? m.number with _ | _ | _ <;> rfl
  case isFalse => rfl

theorem box?_receive (x : Exchange) (m m' : MailboxId) :
    (x.receive m).1.box? m' =
      if m = m' then (x.box? m').map List.tail else x.box? m' := by
  obtain ⟨a, n⟩ := m
  obtain ⟨b, n'⟩ := m'
  unfold box?
  rw [receive_eq, row_setRow, MailboxRow.receive]
  by_cases hab : a = b
  · subst hab
    by_cases hn : n = n'
    · subst hn
      rcases hbox : (x.row a).boxes.get? n with _ | _ | _ <;> simp [Assoc.get?_put, hbox]
    · rcases (x.row a).boxes.get? n with _ | _ | _ <;> simp [Assoc.get?_put, hn]
  · simp [hab]

theorem Sound.receive (h : x.Sound) (m : MailboxId) : (x.receive m).1.Sound := by
  have hopen (m' : MailboxId) : ((x.receive m).1.box? m').isSome = (x.box? m').isSome := by
    rw [box?_receive]
    split
    · exact Option.isSome_map
    · rfl
  constructor
  · intro b n
    rw [route?_receive, registered_receive, hopen]
    exact h.route_iff b n
  · intro m' hm'
    rw [hopen] at hm'
    rw [registered_receive]
    exact h.lt_registered m' hm'

/-! ### Delivering -/

/-- The exchange after a delivery that may fail. -/
def post (x : Exchange) (a : Address) (r : Response) : Exchange := (x.deliver a r).toOption.getD x

theorem registered_post (x : Exchange) (a b : Address) (r : Response) :
    (x.post a r).registered b = x.registered b := by
  unfold registered post deliver MailboxRow.deliver?
  cases (x.row a).route with
  | none => rfl
  | some n =>
    by_cases hab : a = b <;> simp [Except.toOption, row_setRow, hab]

theorem route?_post (x : Exchange) (a b : Address) (r : Response) :
    (x.post a r).route? b = x.route? b := by
  unfold route? post deliver MailboxRow.deliver?
  cases hroute : (x.row a).route with
  | none => rfl
  | some n =>
    by_cases hab : a = b
    · subst hab
      simp [Except.toOption, row_setRow, hroute]
    · simp [Except.toOption, row_setRow, hab]

theorem Sound.box?_post (h : x.Sound) (a : Address) (r : Response) (m : MailboxId) :
    (x.post a r).box? m =
      if a = m.address ∧ x.route? a = some m.number then (x.box? m).map (· ++ [r])
      else x.box? m := by
  obtain ⟨b, n'⟩ := m
  have hopen := fun n => h.isSome_box? (a := a) (n := n)
  unfold box? route? post deliver MailboxRow.deliver? at *
  cases hroute : (x.row a).route with
  | none => simp [Except.toOption]
  | some n =>
    obtain ⟨rs, hrs⟩ := Option.isSome_iff_exists.mp (hopen n hroute)
    by_cases hab : a = b
    · subst hab
      by_cases hn : n = n'
      · subst hn
        simp [Except.toOption, row_setRow, Assoc.get?_put, hrs]
      · simp [Except.toOption, row_setRow, Assoc.get?_put, hn]
    · simp [Except.toOption, row_setRow, hab]

theorem Sound.post (h : x.Sound) (a : Address) (r : Response) : (x.post a r).Sound := by
  have hopen (m' : MailboxId) : ((x.post a r).box? m').isSome = (x.box? m').isSome := by
    rw [h.box?_post]
    split
    · exact Option.isSome_map
    · rfl
  constructor
  · intro b n
    rw [route?_post, registered_post, hopen]
    exact h.route_iff b n
  · intro m' hm'
    rw [hopen] at hm'
    rw [registered_post]
    exact h.lt_registered m' hm'

/-- Carries out the deliveries among the effects of a pool's station. -/
def carry (x : Exchange) (pool : PoolName) : List Effect → Exchange
  | [] => x
  | .delivery requester r true :: rest => carry (x.post ⟨pool, requester⟩ r) pool rest
  | _ :: rest => carry x pool rest

/-- Deliveries open and close nothing, and responses go to the newest mailbox in their order. -/
structure Carried (x : Exchange) (pool : PoolName) (effects : List Effect) (x' : Exchange) :
    Prop where
  sound : x'.Sound
  registered_eq : ∀ a, x'.registered a = x.registered a
  route_eq : ∀ a, x'.route? a = x.route? a
  box_eq : ∀ m, x'.box? m =
    if m.address.pool = pool ∧ x.route? m.address = some m.number then
      (x.box? m).map (· ++ effects.filterMap (Effect.responseTo? m.address.requester))
    else x.box? m

theorem Sound.carried_nil (h : x.Sound) (pool : PoolName) : Carried x pool [] x where
  sound := h
  registered_eq _ := rfl
  route_eq _ := rfl
  box_eq m := by simp

theorem Sound.carry (h : x.Sound) (pool : PoolName) (effects : List Effect) :
    Carried x pool effects (x.carry pool effects) := by
  induction effects generalizing x with
  | nil => exact h.carried_nil pool
  | cons effect rest ih =>
    rcases effect with ⟨requester, r, _ | _⟩ | _ | _ | _
    case delivery.true =>
      obtain ⟨hsound, hregistered, hroute, hbox⟩ := ih (h.post ⟨pool, requester⟩ r)
      refine ⟨hsound, fun a => ?_, fun a => ?_, fun m => ?_⟩
      · rw [Exchange.carry, hregistered, registered_post]
      · rw [Exchange.carry, hroute, route?_post]
      · rw [Exchange.carry, hbox, route?_post, h.box?_post]
        obtain ⟨⟨pool', q⟩, n⟩ := m
        by_cases hpool : pool' = pool
        · subst hpool
          by_cases hq : requester = q
          · subst hq
            by_cases hn : x.route? ⟨pool', requester⟩ = some n
            · cases hold : x.box? ⟨⟨pool', requester⟩, n⟩ <;> simp [hn, Effect.responseTo?]
            · simp [hn]
          · simp [hq, Effect.responseTo?]
        · simp [hpool, Ne.symm hpool]
    all_goals
      obtain ⟨hsound, hregistered, hroute, hbox⟩ := ih h
      exact ⟨hsound, hregistered, hroute, hbox⟩

/-! ### One mailbox among others -/

/-- What others do to a mailbox: it may get responses while it is the newest, and once it is
replaced it stays as it is. -/
structure Kept (m : MailboxId) (x x' : Exchange) : Prop where
  registered_le : x.registered m.address ≤ x'.registered m.address
  box : ∃ rs, x'.box? m = (x.box? m).map (· ++ rs) ∧
    (x.route? m.address ≠ some m.number → rs = [])
  route : x'.route? m.address = some m.number → x.route? m.address = some m.number

theorem Kept.of_eq (hregistered : x.registered m.address ≤ x'.registered m.address)
    (hbox : x'.box? m = x.box? m)
    (hroute : x'.route? m.address = some m.number → x.route? m.address = some m.number) :
    Kept m x x' where
  registered_le := hregistered
  box := ⟨[], by simp [hbox], fun _ => rfl⟩
  route := hroute

theorem Kept.refl (m : MailboxId) (x : Exchange) : Kept m x x := .of_eq (Nat.le_refl _) rfl id

theorem Kept.trans {x'' : Exchange} (h : Kept m x x') (h' : Kept m x' x'') : Kept m x x'' := by
  obtain ⟨rs, hbox, hnil⟩ := h.box
  obtain ⟨rs', hbox', hnil'⟩ := h'.box
  refine ⟨Nat.le_trans h.registered_le h'.registered_le, ⟨rs ++ rs', ?_, fun hroute => ?_⟩,
    fun hroute => h.route (h'.route hroute)⟩
  · rw [hbox', hbox, Option.map_map]
    congr 1
    funext l
    exact List.append_assoc l rs rs'
  · rw [hnil hroute, hnil' fun hroute' => hroute (h.route hroute'), List.nil_append]

theorem Kept.isSome_box? (h : Kept m x x') : (x'.box? m).isSome = (x.box? m).isSome := by
  obtain ⟨rs, hbox, -⟩ := h.box
  rw [hbox, Option.isSome_map]

theorem kept_register (a : Address) (hlt : m.number < x.registered m.address) :
    Kept m x (x.register a).1 := by
  refine .of_eq ?_ ?_ fun hroute => ?_
  · rw [registered_register]
    split
    · exact Nat.le_succ _
    · exact Nat.le_refl _
  · have hne : (⟨a, x.registered a⟩ : MailboxId) ≠ m := by
      rintro rfl
      exact Nat.lt_irrefl _ hlt
    rw [box?_register, if_neg hne]
  · rw [route?_register] at hroute
    split at hroute
    · exact absurd (Option.some.inj hroute) (Nat.ne_of_gt hlt)
    · exact hroute

theorem kept_receive (hne : m' ≠ m) : Kept m x (x.receive m').1 := by
  refine .of_eq ?_ ?_ fun hroute => ?_
  · exact Nat.le_of_eq (registered_receive x m' _).symm
  · rw [box?_receive, if_neg hne]
  · rwa [route?_receive] at hroute

theorem Sound.kept_post (h : x.Sound) (a : Address) (r : Response) : Kept m x (x.post a r) := by
  refine ⟨?_, ?_, fun hroute => ?_⟩
  · exact Nat.le_of_eq (registered_post x a _ r).symm
  · rw [h.box?_post]
    split
    case isTrue hnewest =>
      refine ⟨[r], rfl, fun hroute => ?_⟩
      rw [← hnewest.1] at hroute
      exact absurd hnewest.2 hroute
    case isFalse => exact ⟨[], by simp, fun _ => rfl⟩
  · rwa [route?_post] at hroute

theorem Carried.kept {pool : PoolName} {effects : List Effect} (h : Carried x pool effects x') :
    Kept m x x' := by
  refine ⟨Nat.le_of_eq (h.registered_eq _).symm, ?_, fun hroute => ?_⟩
  · rw [h.box_eq]
    split
    case isTrue hnewest => exact ⟨_, rfl, fun hroute => absurd hnewest.2 hroute⟩
    case isFalse => exact ⟨[], by simp, fun _ => rfl⟩
  · rwa [h.route_eq] at hroute

/-- A mailbox has been closed, whatever was in it. -/
structure Shut (m : MailboxId) (x x' : Exchange) : Prop where
  registered_eq : ∀ a, x'.registered a = x.registered a
  route_eq : ∀ a, x'.route? a =
    if m.address = a ∧ x.route? a = some m.number then none else x.route? a
  box_eq : ∀ m', x'.box? m' = if m = m' then none else x.box? m'

theorem shut_close (x : Exchange) (m : MailboxId) : Shut m x (x.close m) :=
  ⟨registered_close x m, route?_close x m, box?_close x m⟩

theorem shut_receive_close (x : Exchange) (m : MailboxId) :
    Shut m x ((x.receive m).1.close m) := by
  refine ⟨fun a => ?_, fun a => ?_, fun m' => ?_⟩
  · rw [registered_close, registered_receive]
  · rw [route?_close, route?_receive]
  · rw [box?_close, box?_receive]
    split <;> rfl

theorem Shut.kept (h : Shut m' x x') (hne : m' ≠ m) : Kept m x x' := by
  refine .of_eq (Nat.le_of_eq (h.registered_eq _).symm) ?_ fun hroute => ?_
  · rw [h.box_eq, if_neg hne]
  · rw [h.route_eq] at hroute
    split at hroute
    · cases hroute
    · exact hroute

end Exchange

end LeasePool
