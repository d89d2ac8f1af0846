import LeasePool.Proofs.Runs

/-!
What becomes of requests. The history of a run says which request each step accepts, and whose
request it grants, rolls back or withdraws. A register of the history lists the accepted requests in
the order of their arrival, and each of them once more when it has met its fate. A requester awaits
one slot at a time, so that whatever happens to a request of a requester happens to the last one.
The requests that were granted or rolled back, followed by those that wait, are the accepted ones in
the order of their arrival, less those that were withdrawn.
-/
namespace LeasePool

/-- What can become of a request. -/
inductive Fate where
  | granted | rolledBack | withdrawn
deriving DecidableEq, Repr

/-- The requester whose request is used up, by a delivered grant or one that is taken back. -/
def Effect.consumption? : Effect → Option (String × Fate)
  | .delivery requester (.acquired ..) true => some (requester, .granted)
  | .event (.rolledBack requester _) => some (requester, .rolledBack)
  | _ => none

/-- The request that a step accepts, and the requesters whose requests meet their fate. -/
structure Entry where
  accepted : Option Pending
  fates : List (String × Fate)
deriving DecidableEq, Repr

/-- An accepted request, with its number in the order of arrival. -/
structure Arrival where
  number : Nat
  request : Pending
deriving DecidableEq, Repr

def Arrival.requester (a : Arrival) : String := a.request.requester

/-- The accepted requests in the order of arrival, and those that met their fate in that order. -/
structure Register where
  accepted : List Arrival
  ended : List (Arrival × Fate)
deriving Repr

namespace Register

def empty : Register := ⟨[], []⟩

/-- The last accepted request of a requester. -/
def latest? (g : Register) (requester : String) : Option Arrival :=
  g.accepted.reverse.find? fun a => a.requester == requester

def accept (g : Register) (r : Pending) : Register :=
  { g with accepted := g.accepted ++ [⟨g.accepted.length, r⟩] }

/-- Enters the fate of the last request of a requester. -/
def settle (g : Register) (fate : String × Fate) : Register :=
  { g with ended := g.ended ++ ((g.latest? fate.1).map fun a => (a, fate.2)).toList }

/-- Enters what a step accepts, and then what becomes of requests. -/
def enter (g : Register) (entry : Entry) : Register :=
  entry.fates.foldl settle (entry.accepted.elim g g.accept)

/-- The register of a history. -/
def ofHistory (history : List Entry) : Register := history.foldl enter empty

/-- The requests that were granted or rolled back, in that order. -/
def consumed (g : Register) : List Arrival :=
  (g.ended.filter fun e => e.2 ≠ .withdrawn).map Prod.fst

def withdrawn (g : Register) : List Arrival :=
  (g.ended.filter fun e => e.2 = .withdrawn).map Prod.fst

/-- The fates entered so far, with the requesters. -/
def fates (g : Register) : List (String × Fate) := g.ended.map fun e => (e.1.requester, e.2)

/-- The register knows which arrivals wait. -/
structure Tracks (g : Register) (waiting : List Arrival) : Prop where
  numbers_eq : g.accepted.map Arrival.number = List.range g.accepted.length
  ordered : g.consumed ++ waiting = g.accepted.filter fun a => a ∉ g.withdrawn
  once : (g.ended.map Prod.fst ++ waiting).Perm g.accepted
  latest : ∀ a ∈ waiting, g.latest? a.requester = some a

variable {g : Register} {waiting before after : List Arrival} {a : Arrival} {fate : Fate}

theorem latest?_accept (g : Register) (r : Pending) (requester : String) :
    (g.accept r).latest? requester =
      if r.requester = requester then some ⟨g.accepted.length, r⟩ else g.latest? requester := by
  unfold latest? accept
  rw [List.reverse_append, List.reverse_singleton, List.singleton_append, List.find?_cons]
  by_cases hr : r.requester = requester
  · simp [Arrival.requester, hr]
  · have hne : (r.requester == requester) = false := beq_eq_false_iff_ne.mpr hr
    simp only [Arrival.requester, hne, if_neg hr]

theorem ended_settle (fate : Fate) (h : g.latest? a.requester = some a) :
    (g.settle (a.requester, fate)).ended = g.ended ++ [(a, fate)] := by
  simp only [settle, h]
  rfl

theorem fates_settle (fate : Fate) (h : g.latest? a.requester = some a) :
    (g.settle (a.requester, fate)).fates = g.fates ++ [(a.requester, fate)] := by
  rw [fates, ended_settle fate h, List.map_append]
  rfl

theorem consumed_settle (fate : Fate) (h : g.latest? a.requester = some a) :
    (g.settle (a.requester, fate)).consumed =
      g.consumed ++ if fate = .withdrawn then [] else [a] := by
  rw [consumed, ended_settle fate h, List.filter_append, List.map_append]
  cases fate <;> rfl

theorem withdrawn_settle (fate : Fate) (h : g.latest? a.requester = some a) :
    (g.settle (a.requester, fate)).withdrawn =
      g.withdrawn ++ if fate = .withdrawn then [a] else [] := by
  rw [withdrawn, ended_settle fate h, List.filter_append, List.map_append]
  cases fate <;> rfl

namespace Tracks

theorem empty : Tracks .empty [] := ⟨rfl, rfl, List.Perm.nil, fun _ h => nomatch h⟩

/-- Accepted requests are numbered upwards. -/
theorem increasing (h : Tracks g waiting) :
    g.accepted.Pairwise fun a b => a.number < b.number := by
  have hrange := List.pairwise_lt_range (n := g.accepted.length)
  rwa [← h.numbers_eq, List.pairwise_map] at hrange

theorem in_order (h : Tracks g waiting) :
    (g.consumed ++ waiting).Pairwise fun a b => a.number < b.number := by
  rw [h.ordered]
  exact h.increasing.filter _

theorem nodup (h : Tracks g waiting) : g.accepted.Nodup :=
  h.increasing.imp fun {a b} (hlt : a.number < b.number) heq => by
    rw [heq] at hlt
    exact Nat.lt_irrefl _ hlt

theorem mem_accepted_of_ended (h : Tracks g waiting) {e : Arrival × Fate} (he : e ∈ g.ended) :
    e.1 ∈ g.accepted :=
  h.once.subset (List.mem_append_left _ (List.mem_map_of_mem he))

/-- A request that is accepted waits behind all others. -/
theorem accept (h : Tracks g waiting) {r : Pending}
    (hnew : r.requester ∉ waiting.map Arrival.requester) :
    Tracks (g.accept r) (waiting ++ [⟨g.accepted.length, r⟩]) := by
  have hfresh : (⟨g.accepted.length, r⟩ : Arrival) ∉ g.withdrawn := by
    intro hmem
    obtain ⟨e, he, heq⟩ := List.mem_map.mp hmem
    have hnumber := List.mem_map_of_mem (f := Arrival.number)
      (h.mem_accepted_of_ended (List.mem_filter.mp he).1)
    rw [heq, h.numbers_eq, List.mem_range] at hnumber
    exact Nat.lt_irrefl _ hnumber
  constructor
  · simp only [Register.accept, List.map_append, h.numbers_eq, List.length_append,
      List.length_singleton, List.range_succ]
    rfl
  · have hfilter : (g.accept r).accepted.filter (fun a => a ∉ g.withdrawn) =
        g.accepted.filter (fun a => a ∉ g.withdrawn) ++ [⟨g.accepted.length, r⟩] := by
      rw [Register.accept, List.filter_append]
      simp [hfresh]
    rw [← List.append_assoc]
    exact (congrArg (· ++ [_]) h.ordered).trans hfilter.symm
  · rw [← List.append_assoc]
    exact h.once.append_right _
  · intro a ha
    rw [latest?_accept]
    rcases List.mem_append.mp ha with hold | hlast
    · have hother : r.requester ≠ a.requester := by
        intro heq
        rw [heq] at hnew
        exact hnew (List.mem_map_of_mem hold)
      rw [if_neg hother]
      exact h.latest a hold
    · rw [List.mem_singleton.mp hlast]
      exact if_pos rfl

/-- The accepted requests that were not withdrawn, when one that waits is withdrawn too. -/
theorem filter_withdrawn (h : Tracks g (before ++ a :: after)) :
    g.consumed ++ (before ++ after) = g.accepted.filter fun b => b ∉ g.withdrawn ++ [a] := by
  have hnodup : (g.consumed ++ (before ++ a :: after)).Nodup := by
    rw [h.ordered]
    exact h.nodup.filter _
  have hsplit : a ∉ g.consumed ++ before := by
    rw [← List.append_assoc, List.nodup_middle, List.nodup_cons] at hnodup
    exact fun hmem => hnodup.1 (List.mem_append_left _ hmem)
  calc g.consumed ++ (before ++ after)
      = (g.consumed ++ (before ++ a :: after)).erase a := by
        rw [← List.append_assoc, ← List.append_assoc, List.erase_append_right _ hsplit,
          List.erase_cons_head]
    _ = (g.accepted.filter fun b => b ∉ g.withdrawn).filter fun b => b ≠ a := by
        rw [hnodup.erase_eq_filter, h.ordered]
        congr 1
        funext b
        by_cases hb : b = a <;> simp [hb]
    _ = g.accepted.filter fun b => b ∉ g.withdrawn ++ [a] := by
        rw [List.filter_filter]
        congr 1
        funext b
        simp [and_comm]

/-- A request that meets its fate waits no more. Only a withdrawal may be out of turn. -/
theorem settle (h : Tracks g (before ++ a :: after)) (fate : Fate)
    (hturn : fate = .withdrawn ∨ before = []) :
    Tracks (g.settle (a.requester, fate)) (before ++ after) ∧
      (g.settle (a.requester, fate)).fates = g.fates ++ [(a.requester, fate)] := by
  have hlatest := h.latest a (List.mem_append_right _ List.mem_cons_self)
  refine ⟨⟨h.numbers_eq, ?_, ?_, ?_⟩, fates_settle fate hlatest⟩
  · rw [consumed_settle fate hlatest, withdrawn_settle fate hlatest]
    by_cases hfate : fate = .withdrawn
    · rw [if_pos hfate, if_pos hfate, List.append_nil]
      exact h.filter_withdrawn
    · obtain rfl := hturn.resolve_left hfate
      rw [if_neg hfate, if_neg hfate, List.append_nil, List.append_assoc]
      exact h.ordered
  · rw [ended_settle fate hlatest, List.map_append, List.map_singleton, List.append_assoc,
      List.singleton_append]
    exact (List.perm_middle.symm.append_left _).trans h.once
  · intro b hb
    rcases List.mem_append.mp hb with hbefore | hafter
    · exact h.latest b (List.mem_append_left _ hbefore)
    · exact h.latest b (List.mem_append_right _ (List.mem_cons_of_mem _ hafter))

/-- The first request of the waiting list is the next one to be consumed. -/
theorem serve (h : Tracks g waiting) {r : Pending} {rest : List Pending}
    (hwaiting : waiting.map Arrival.request = r :: rest) (fate : Fate) :
    ∃ left, left.map Arrival.request = rest ∧ Tracks (g.settle (r.requester, fate)) left ∧
      (g.settle (r.requester, fate)).fates = g.fates ++ [(r.requester, fate)] := by
  obtain ⟨a, left, rfl, rfl, hleft⟩ := List.map_eq_cons_iff.mp hwaiting
  have hhead : Tracks g ([] ++ a :: left) := h
  obtain ⟨htracks, hfates⟩ := hhead.settle fate (Or.inr rfl)
  exact ⟨left, hleft, htracks, hfates⟩

theorem withdraw (h : Tracks g waiting) {requester : String}
    (hwaits : requester ∈ waiting.map Arrival.requester) :
    ∃ left, left.map Arrival.request = (waiting.map Arrival.request).eraseP
        (fun r => r.requester == requester) ∧
      Tracks (g.settle (requester, .withdrawn)) left ∧
      (g.settle (requester, .withdrawn)).fates = g.fates ++ [(requester, .withdrawn)] := by
  obtain ⟨b, hb, rfl⟩ := List.mem_map.mp hwaits
  have hself : (b.requester == b.requester) = true := beq_self_eq_true _
  obtain ⟨a, before, after, -, ha, rfl, herase⟩ := List.exists_of_eraseP
    (p := fun a : Arrival => a.requester == b.requester) hb hself
  rw [beq_iff_eq] at ha
  rw [← ha] at herase ⊢
  obtain ⟨htracks, hfates⟩ := h.settle .withdrawn (Or.inl rfl)
  refine ⟨before ++ after, ?_, htracks, hfates⟩
  rw [← herase, List.eraseP_map]
  rfl

end Tracks

end Register

namespace Coordinator

variable {c c' : Coordinator} {g : Register} {clock : Readings} {reach : String → Bool}
  {fates : List (String × Fate)}

/-- The request that a step accepts: one that is not answered as a duplicate. -/
def accepted? (input : Input) (effects : List Effect) : Option Pending :=
  match input with
  | .message (.request requester priority) =>
    if .duplicate requester ∈ effects.filterMap Effect.event? then none
    else some ⟨requester, priority⟩
  | _ => none

/-- The requester whose waiting request an input withdraws. -/
def withdrawn? (c : Coordinator) : Input → Option String
  | .message (.cancel requester) => if c.pool.isWaiting requester then some requester else none
  | _ => none

/-- What a step does to requests. -/
def entry (c : Coordinator) (input : Input) (effects : List Effect) : Entry where
  accepted := accepted? input effects
  fates := (c.withdrawn? input).toList.map (·, .withdrawn) ++
    effects.filterMap Effect.consumption?

/-- What the steps of a run do to requests. -/
def history (c : Coordinator) : List Occasion → List Entry
  | [] => []
  | o :: rest =>
    let (c', effects) := c.step o.clock o.reach o.input
    c.entry o.input effects :: history c' rest

/-- The register holds the fates, and knows the waiting list of the coordinator. -/
def Records (g : Register) (c : Coordinator) (fates : List (String × Fate)) : Prop :=
  g.fates = fates ∧ ∃ waiting, waiting.map Arrival.request = c.pool.queue ∧ g.Tracks waiting

theorem Offer.consumption_eq {requester : String} {effects : List Effect}
    (hoffer : Offer clock reach c requester effects c') :
    ∃ fate, effects.filterMap Effect.consumption? = [(requester, fate)] := by
  cases hoffer with
  | granted index s hfirst hreach => exact ⟨.granted, rfl⟩
  | refused index s hfirst hreach => exact ⟨.rolledBack, rfl⟩

theorem Records.drained {effects : List Effect} (h : Records g c fates)
    (hdrain : Drained clock reach c effects c') :
    Records ((effects.filterMap Effect.consumption?).foldl Register.settle g) c'
      (fates ++ effects.filterMap Effect.consumption?) := by
  induction hdrain generalizing g fates with
  | done hrest =>
    rw [List.filterMap_nil, List.append_nil]
    exact h
  | @serve c c' c'' r rest effects more hfree hqueue hoffer hmore ih =>
    obtain ⟨rfl, waiting, hwaiting, htracks⟩ := h
    obtain ⟨fate, heffects⟩ := hoffer.consumption_eq
    obtain ⟨left, hleft, hserved, hfates⟩ := htracks.serve (hwaiting.trans hqueue) fate
    have hnext : Records (g.settle (r.requester, fate)) c' (g.fates ++ [(r.requester, fate)]) :=
      ⟨hfates, left, hleft.trans hoffer.queue_eq.symm, hserved⟩
    rw [List.filterMap_append, heffects, List.foldl_append, ← List.append_assoc]
    exact ih hnext

/-- Nobody is turned away while the waiting list is served. -/
theorem Drained.not_duplicate {effects : List Effect}
    (hdrain : Drained clock reach c effects c') (requester : String) :
    .duplicate requester ∉ effects.filterMap Effect.event? := fun hmem =>
  Bool.false_ne_true (hdrain.isOffer_event _ hmem)

/-- A change uses up no request. -/
theorem Changed.consumption_eq {input : Input} {effects : List Effect}
    (hchange : Changed clock reach c input effects c') :
    effects.filterMap Effect.consumption? = [] := by
  refine hchange.filterMap_eq_nil fun effect h => ?_
  unfold Effect.consumption?
  split <;> first | rfl | cases h

/-- A change lets an accepted request join the waiting list, or lets a withdrawn one leave it, or
it leaves the list alone. -/
theorem Changed.arrival_cases {input : Input} {effects more : List Effect}
    (hchange : Changed clock reach c input effects c')
    (hmore : ∀ requester, .duplicate requester ∉ more.filterMap Effect.event?) :
    (∃ r, accepted? input (effects ++ more) = some r ∧ c.withdrawn? input = none ∧
        ¬ c.pool.Knows r.requester ∧ c'.pool.queue = c.pool.queue ++ [r]) ∨
      accepted? input (effects ++ more) = none ∧
        ((∃ requester ∈ c.pool.queue.map Pending.requester,
            c.withdrawn? input = some requester ∧
              c'.pool.queue = c.pool.queue.eraseP fun r => r.requester == requester) ∨
          c.withdrawn? input = none ∧ c'.pool.queue = c.pool.queue) := by
  have hwaiting (requester : String) : c.pool.isWaiting requester = true ↔
      requester ∈ c.pool.queue.map Pending.requester := by
    simp [Pool.isWaiting]
  cases hchange with
  | admitted requester priority hnew | queued requester priority hnew =>
    refine Or.inl ⟨⟨requester, priority⟩, if_neg ?_, rfl, hnew, rfl⟩
    rw [List.filterMap_append, List.mem_append, not_or]
    exact ⟨by simp [Effect.event?], hmore requester⟩
  | duplicate requester priority hknown =>
    exact Or.inr ⟨if_pos List.mem_cons_self, Or.inr ⟨rfl, rfl⟩⟩
  | withdrawn requester hwaits =>
    exact Or.inr ⟨rfl, Or.inl ⟨requester, hwaits, if_pos ((hwaiting requester).mpr hwaits), rfl⟩⟩
  | notWaiting requester hgone =>
    exact Or.inr ⟨rfl, Or.inr ⟨if_neg fun h => hgone ((hwaiting requester).mp h), rfl⟩⟩
  | released hlease honly hnotes => exact Or.inr ⟨rfl, Or.inr ⟨rfl, Pool.tidy_queue _⟩⟩
  | expired hlease hnotes => exact Or.inr ⟨rfl, Or.inr ⟨rfl, Pool.tidy_queue _⟩⟩
  | _ => exact Or.inr ⟨rfl, Or.inr ⟨rfl, rfl⟩⟩

/-- Entering what a change accepts and withdraws. -/
theorem Records.changed {input : Input} {effects more : List Effect} (h : Records g c fates)
    (hchange : Changed clock reach c input effects c')
    (hmore : ∀ requester, .duplicate requester ∉ more.filterMap Effect.event?) :
    Records (((c.withdrawn? input).toList.map (·, Fate.withdrawn)).foldl Register.settle
        ((accepted? input (effects ++ more)).elim g g.accept)) c'
      (fates ++ (c.withdrawn? input).toList.map (·, .withdrawn)) := by
  obtain ⟨rfl, waiting, hwaiting, htracks⟩ := h
  have hnames : waiting.map Arrival.requester = c.pool.queue.map Pending.requester := by
    rw [← hwaiting, List.map_map]
    rfl
  rcases hchange.arrival_cases hmore with ⟨r, haccepted, hkept, hnew, hqueue⟩ |
    ⟨haccepted, ⟨requester, hwaits, hgone, hqueue⟩ | ⟨hkept, hqueue⟩⟩
  · have hwaits := ((Pool.Accounted.not_knows_iff c.pool r.requester).mp hnew).2
    rw [haccepted, hkept, Option.toList_none, List.map_nil, List.append_nil]
    refine ⟨rfl, _, ?_, htracks.accept (hnames ▸ hwaits)⟩
    rw [hqueue, List.map_append, hwaiting]
    rfl
  · obtain ⟨left, hleft, hrest, hfates⟩ := htracks.withdraw (hnames ▸ hwaits)
    rw [hwaiting, ← hqueue] at hleft
    rw [haccepted, hgone]
    exact ⟨hfates, left, hleft, hrest⟩
  · rw [haccepted, hkept, Option.toList_none, List.map_nil, List.append_nil]
    exact ⟨rfl, waiting, hwaiting.trans hqueue.symm, htracks⟩

theorem Records.stepped {input : Input} {effects : List Effect} (h : Records g c fates)
    (hstep : Stepped clock reach c input effects c') :
    Records (g.enter (c.entry input effects)) c' (fates ++ (c.entry input effects).fates) := by
  cases hstep with
  | intro hchange hdrain =>
    have hserved := (h.changed hchange hdrain.not_duplicate).drained hdrain
    rw [Register.enter, entry, List.filterMap_append, hchange.consumption_eq, List.nil_append,
      List.foldl_append, ← List.append_assoc]
    exact hserved

theorem Records.run (h : Records g c fates) (hc : c.Resting) (os : List Occasion) :
    Records ((c.history os).foldl Register.enter g) (c.run os).1
      (fates ++ (c.history os).flatMap Entry.fates) := by
  induction os generalizing c g fates with
  | nil =>
    rw [history, List.flatMap_nil, List.append_nil]
    exact h
  | cons o os ih =>
    rw [history, List.flatMap_cons, ← List.append_assoc]
    exact ih (h.stepped (hc.stepped o)) (hc.step o)

theorem records_create {name : PoolName} {options : PoolOptions} {now : Readings} {e : Event}
    (hcreate : create name options now = .ok (c, e)) : Records .empty c [] := by
  obtain ⟨-, rfl, -⟩ := create_eq_ok hcreate
  exact ⟨rfl, [], rfl, .empty⟩

/-- After every run of a coordinator, the requests that were granted or rolled back, followed by
those that wait, are the accepted ones in the order of their arrival, less those that were
withdrawn. Every accepted request has met one fate or waits, and none is overtaken by a later
one. -/
theorem create_run_fifo {name : PoolName} {options : PoolOptions} {now : Readings} {e : Event}
    (hcreate : create name options now = .ok (c, e)) (os : List Occasion) :
    let g := Register.ofHistory (c.history os)
    g.fates = (c.history os).flatMap Entry.fates ∧
      ∃ waiting, waiting.map Arrival.request = (c.run os).1.pool.queue ∧
        g.consumed ++ waiting = g.accepted.filter (fun a => a ∉ g.withdrawn) ∧
        (g.consumed ++ waiting).Pairwise (fun a b => a.number < b.number) ∧
        (g.ended.map Prod.fst ++ waiting).Perm g.accepted ∧ g.accepted.Nodup := by
  obtain ⟨hfates, waiting, hwaiting, htracks⟩ :=
    (records_create hcreate).run (resting_create hcreate) os
  exact ⟨hfates, waiting, hwaiting, htracks.ordered, htracks.in_order, htracks.once, htracks.nodup⟩

/-- Three requests for one slot: the first is granted, the second is withdrawn, and the third is
rolled back when the slot is given back. -/
theorem create_run_fifo_three :
    ∃ c e, create ⟨"space", "disk"⟩ ⟨1, none, .plain, 1000⟩ default = .ok (c, e) ∧
      let os := [Message.request "a" 0, .request "b" 5, .request "c" 9, .cancel "b",
        .release (releaseChannel "a") none].map fun m =>
          (⟨default, fun requester => requester == "a", .message m⟩ : Occasion)
      let g := Register.ofHistory (c.history os)
      (c.history os).flatMap Entry.fates =
          [("a", .granted), ("b", .withdrawn), ("c", .rolledBack)] ∧
        ∃ waiting, waiting.map Arrival.request = (c.run os).1.pool.queue ∧
          g.consumed ++ waiting = g.accepted.filter fun a => a ∉ g.withdrawn := by
  have hcreate : create ⟨"space", "disk"⟩ ⟨1, none, .plain, 1000⟩ default = .ok (_, _) := rfl
  obtain ⟨-, waiting, hwaiting, hordered, -⟩ := create_run_fifo hcreate
    ([Message.request "a" 0, .request "b" 5, .request "c" 9, .cancel "b",
      .release (releaseChannel "a") none].map fun m =>
        ⟨default, fun requester => requester == "a", .message m⟩)
  exact ⟨_, _, hcreate, by decide, waiting, hwaiting, hordered⟩

end Coordinator

end LeasePool
