import LeasePool.Proofs.Queues
import LeasePool.Proofs.Renumbering
import Mathlib.Data.List.Induction

/-!
A requester whom no response reaches makes no difference to the others. A run is compared with the
same run without the inputs of that requester: the two pools differ in the waiting list only, where
the requester may take up places, and everybody else receives the same responses. The requester's
attempts use up lease ids, so that the ids of all later grants are renumbered.
-/
namespace LeasePool

/-! ### What is compared -/

namespace Effect

/-- The lease of an attempt to grant a slot to anybody but `u`. -/
def otherLease? (u : String) : Effect → Option Nat
  | .delivery requester (.acquired _ lease _) _ => if requester = u then none else some lease
  | _ => none

end Effect

/-- The pool with the requests of `u` off the waiting list. -/
def Pool.ignoring (u : String) (p : Pool) : Pool :=
  { p with queue := p.queue.filter fun r => r.requester ≠ u }

namespace Coordinator

/-- The inputs that come from a requester. -/
def Input.IsFrom (u : String) : Input → Prop
  | .message (.request requester _) => requester = u
  | .message (.release channel _) => channel = releaseChannel u
  | .message (.cancel requester) => requester = u
  | _ => False

instance (u : String) : DecidablePred (Input.IsFrom u)
  | .message (.request requester _) => inferInstanceAs (Decidable (requester = u))
  | .message (.release channel _) => inferInstanceAs (Decidable (channel = releaseChannel u))
  | .message (.cancel requester) => inferInstanceAs (Decidable (requester = u))
  | .message (.resize _) | .message .status | .message .allocation | .expiry _ =>
    inferInstanceAs (Decidable False)

/-- The ids of the grants to others than `u` in a run, in order. -/
def otherLeases (u : String) (c : Coordinator) (os : List Occasion) : List Nat :=
  (c.run os).2.filterMap (Effect.otherLease? u)

/-- The second run is the first one without the inputs of `u`. What is kept happens at the same
time and reaches the same requesters. -/
inductive Without (u : String) (c : Coordinator) : List Occasion → List Occasion → Prop where
  | nil : Without u c [] []
  | drop {os os' : List Occasion} (h : Without u c os os') (o : Occasion)
      (hfrom : o.input.IsFrom u) : Without u c (os ++ [o]) os'
  | keep {os os' : List Occasion} (h : Without u c os os') (o : Occasion) {input : Input}
      (hother : ¬ o.input.IsFrom u)
      (hmatches : o.input.Matches (c.otherLeases u os) (c.otherLeases u os') input) :
      Without u c (os ++ [o]) (os' ++ [{ o with input }])

end Coordinator

/-! ### Pools that ignore a requester -/

namespace Pool

variable {u : String}

theorem tidy_ignoring (p : Pool) : (p.ignoring u).tidy = p.tidy.ignoring u := p.tidy_onQueue

theorem resize_ignoring (p : Pool) (name : PoolName) (strategy : Strategy) (now : Readings)
    (size : Nat) : ((p.ignoring u).resize name strategy now size).1 =
      (p.resize name strategy now size).1.ignoring u :=
  congrArg Prod.fst (p.resize_onQueue name strategy now size)

/-- Whether another requester waits. -/
theorem waits_ignoring_iff (p : Pool) {requester : String} (hne : requester ≠ u) :
    requester ∈ (p.ignoring u).queue.map Pending.requester ↔
      requester ∈ p.queue.map Pending.requester := by
  simp only [ignoring, List.mem_map, List.mem_filter]
  constructor
  · rintro ⟨r, ⟨hr, -⟩, rfl⟩
    exact ⟨r, hr, rfl⟩
  · rintro ⟨r, hr, rfl⟩
    exact ⟨r, ⟨hr, by simpa using hne⟩, rfl⟩

theorem knows_ignoring_iff (p : Pool) {requester : String} (hne : requester ≠ u) :
    (p.ignoring u).Knows requester ↔ p.Knows requester := by
  rw [Knows, Knows, List.mem_append, List.mem_append, p.waits_ignoring_iff hne]
  rfl

/-- Withdrawing the request of another requester. -/
theorem eraseP_ignoring (queue : List Pending) {requester : String} (hne : requester ≠ u) :
    (queue.filter fun r => r.requester ≠ u).eraseP (fun r => r.requester == requester) =
      (queue.eraseP fun r => r.requester == requester).filter fun r => r.requester ≠ u := by
  have hother : (fun r : Pending => r.requester == requester && decide (r.requester ≠ u)) =
      fun r => r.requester == requester := by
    funext r
    by_cases hr : r.requester = requester
    · simp [hr, hne]
    · simp [hr]
  rw [List.eraseP_filter, hother]

/-- Withdrawing the request of `u` itself. -/
theorem filter_eraseP_self (queue : List Pending) :
    (queue.eraseP fun r => r.requester == u).filter (fun r => r.requester ≠ u) =
      queue.filter fun r => r.requester ≠ u := by
  rcases List.exists_or_eq_self_of_eraseP (fun r : Pending => r.requester == u) queue with
    hsame | ⟨r, before, after, -, hr, hqueue, herase⟩
  · rw [hsame]
  · rw [beq_iff_eq] at hr
    rw [herase, hqueue, List.filter_append, List.filter_append,
      List.filter_cons_of_neg (by simp [hr])]

end Pool

namespace Coordinator

variable {u : String} {ids ids' : List Nat} {n n' : Nat} {c c' c'' d d' d'' : Coordinator}
  {clock : Readings} {reach : String → Bool}

/-! ### The grants to others -/

theorem Offer.otherLeases_eq {requester : String} {effects : List Effect}
    (hoffer : Offer clock reach c requester effects c') (hne : requester ≠ u) :
    effects.filterMap (Effect.otherLease? u) = [c.nextLease] := by
  cases hoffer <;> exact List.filterMap_cons_some (if_neg hne)

theorem Offer.otherLeases_self {effects : List Effect}
    (hoffer : Offer clock reach c u effects c') :
    effects.filterMap (Effect.otherLease? u) = [] := by
  cases hoffer <;> exact List.filterMap_cons_none (if_pos rfl)

/-- A change grants nothing. -/
theorem Changed.otherLeases_eq {input : Input} {effects : List Effect}
    (hchange : Changed clock reach c input effects c') :
    effects.filterMap (Effect.otherLease? u) = [] :=
  hchange.filterMap_eq_nil fun
    | .delivery _ (.acquired ..) _, h => nomatch h
    | .delivery _ .cancelled _, _ | .event _, _ | .note _, _ | .answer _, _ => rfl

/-! ### Responses to changes -/

theorem Changed.cancel_delivered {requester : String} {effects : List Effect}
    (hchange : Changed clock reach c (.message (.cancel requester)) effects c') :
    effects.filterMap Effect.delivered? =
      if requester ∈ c.pool.queue.map Pending.requester ∧ reach requester = true then
        [(requester, .cancelled)] else [] := by
  cases hchange with
  | withdrawn _ hwaits =>
    simp only [hwaits, true_and]
    cases reach requester <;> rfl
  | notWaiting _ hgone =>
    rw [if_neg fun h => hgone h.1]
    rfl

theorem Changed.delivered_eq_nil {input : Input} {effects : List Effect}
    (hchange : Changed clock reach c input effects c')
    (hcancel : ¬ ∃ requester, input = .message (.cancel requester)) :
    effects.filterMap Effect.delivered? = [] := by
  cases hchange with
  | released hlease honly hnotes =>
    rw [List.filterMap_cons_none rfl, filterMap_closing fun _ => rfl]
    rfl
  | expired hlease hnotes =>
    rw [filterMap_closing fun _ => rfl]
    rfl
  | withdrawn requester hwaits => exact absurd ⟨requester, rfl⟩ hcancel
  | _ => rfl

/-! ### Coordinators that differ in a requester -/

/-- The second coordinator is like the first, but that `u` is not on its waiting list, and that
leases go by other ids. Neither has granted anything to `u`. -/
structure Shadows (u : String) (ids ids' : List Nat) (c d : Coordinator) : Prop where
  pool_eq : d.pool = c.pool.ignoring u
  leases : ∀ channel : String,
    Option.Rel (SameLease ids) (c.leases.get? channel) (d.leases.get? channel)
  numbered : Numbered ids ids' c.nextLease d.nextLease
  absent : c.pool.grants.get? u = none

/-- Effects of two runs that lead to shadowing coordinators, with the same responses. -/
structure Alike (u : String) (ids ids' : List Nat) (effects effects' : List Effect)
    (c d : Coordinator) : Prop where
  shadows : Shadows u (ids ++ effects.filterMap (Effect.otherLease? u))
    (ids' ++ effects'.filterMap (Effect.otherLease? u)) c d
  responses : List.Forall₂ (SameResponse (ids ++ effects.filterMap (Effect.otherLease? u)))
    (effects.filterMap Effect.delivered?) (effects'.filterMap Effect.delivered?)

namespace Alike

variable {effects effects' more more' : List Effect}

theorem append (h : Alike u ids ids' effects effects' c d)
    (h' : Alike u (ids ++ effects.filterMap (Effect.otherLease? u))
      (ids' ++ effects'.filterMap (Effect.otherLease? u)) more more' c' d') :
    Alike u ids ids' (effects ++ more) (effects' ++ more') c' d' := by
  constructor
  · rw [List.filterMap_append, List.filterMap_append, ← List.append_assoc, ← List.append_assoc]
    exact h'.shadows
  · rw [List.filterMap_append, List.filterMap_append, List.filterMap_append, ← List.append_assoc]
    exact List.rel_append (h.responses.imp fun _ _ hsame => hsame.append _) h'.responses

/-- Effects that neither offer anything to others nor reach anybody. -/
theorem of_silent (h : Shadows u ids ids' c d)
    (hother : effects.filterMap (Effect.otherLease? u) = [])
    (hother' : effects'.filterMap (Effect.otherLease? u) = [])
    (hdelivered : effects.filterMap Effect.delivered? = [])
    (hdelivered' : effects'.filterMap Effect.delivered? = []) :
    Alike u ids ids' effects effects' c d := by
  constructor
  · rwa [hother, hother', List.append_nil, List.append_nil]
  · rw [hdelivered, hdelivered']
    exact .nil

end Alike

namespace Shadows

theorem queue_eq (h : Shadows u ids ids' c d) :
    d.pool.queue = c.pool.queue.filter fun r => r.requester ≠ u := by
  rw [h.pool_eq]
  rfl

theorem free_eq (h : Shadows u ids ids' c d) : d.pool.free = c.pool.free := by
  rw [h.pool_eq]
  rfl

theorem knows_iff (h : Shadows u ids ids' c d) {requester : String} (hne : requester ≠ u) :
    d.pool.Knows requester ↔ c.pool.Knows requester := by
  rw [h.pool_eq, c.pool.knows_ignoring_iff hne]

theorem waits_iff (h : Shadows u ids ids' c d) {requester : String} (hne : requester ≠ u) :
    requester ∈ d.pool.queue.map Pending.requester ↔
      requester ∈ c.pool.queue.map Pending.requester := by
  rw [h.pool_eq, c.pool.waits_ignoring_iff hne]

theorem settled (h : Shadows u ids ids' c d) (hsettled : c.Settled) : d.Settled := by
  rcases hsettled with hfree | hqueue
  · exact Or.inl (h.free_eq.trans hfree)
  · refine Or.inr ?_
    rw [h.queue_eq, hqueue]
    rfl

theorem withQueue (h : Shadows u ids ids' c d) {queue queue' : List Pending}
    (hqueue : queue' = queue.filter fun r => r.requester ≠ u) :
    Shadows u ids ids' (c.withQueue queue) (d.withQueue queue') := by
  refine ⟨?_, h.leases, h.numbered, h.absent⟩
  simp only [Coordinator.withQueue, h.pool_eq, hqueue]
  rfl

/-- Only requests of `u` come onto the waiting list or leave it. -/
theorem withQueue_left (h : Shadows u ids ids' c d) {queue : List Pending}
    (hqueue : queue.filter (fun r => r.requester ≠ u) =
      c.pool.queue.filter fun r => r.requester ≠ u) :
    Shadows u ids ids' (c.withQueue queue) d := by
  have hsame := h.withQueue (h.queue_eq.trans hqueue.symm)
  rwa [withQueue_eq_self rfl] at hsame

theorem enqueue (h : Shadows u ids ids' c d) {r : Pending} (hne : r.requester ≠ u) :
    Shadows u ids ids' (c.withQueue (c.pool.queue ++ [r]))
      (d.withQueue (d.pool.queue ++ [r])) := by
  refine h.withQueue ?_
  rw [List.filter_append, ← h.queue_eq]
  simp [hne]

theorem skipped (h : Shadows u ids ids' c d) : Shadows u ids ids' c.skipped d :=
  ⟨h.pool_eq, h.leases, h.numbered.skip, h.absent⟩

/-! ### Offers -/

theorem leases_append (h : Shadows u ids ids' c d) (more : List Nat) (channel : String) :
    Option.Rel (SameLease (ids ++ more)) (c.leases.get? channel) (d.leases.get? channel) := by
  have hleases := h.leases channel
  cases hl : c.leases.get? channel <;> cases hl' : d.leases.get? channel <;>
    rw [hl, hl'] at hleases <;> cases hleases
  case none.none => exact .none
  case some.some.some hsame => exact .some (hsame.append more)

/-- Neither coordinator can reach the requester, so that an id is used up. -/
theorem skipped_skipped (h : Shadows u ids ids' c d) :
    Shadows u (ids ++ [c.nextLease]) (ids' ++ [d.nextLease]) c.skipped d.skipped :=
  ⟨h.pool_eq, h.leases_append _, h.numbered.snoc, h.absent⟩

theorem granted (h : Shadows u ids ids' c d) {requester : String} (hne : requester ≠ u)
    (hnew : ¬ c.pool.Knows requester) (clock : Readings) (index : Nat) :
    Shadows u (ids ++ [c.nextLease]) (ids' ++ [d.nextLease]) (c.granted clock index requester)
      (d.granted clock index requester) := by
  have hgrant := ((Pool.Accounted.not_knows_iff c.pool requester).mp hnew).1
  refine ⟨?_, fun channel => ?_, h.numbered.snoc, ?_⟩
  · have hpool : (d.granted clock index requester).pool =
        d.pool.grant (clock.acquired requester) index requester := rfl
    rw [hpool, h.pool_eq]
    rfl
  · rw [granted_leases, granted_leases]
    by_cases hchannel : releaseChannel requester = channel
    · rw [if_pos hchannel, if_pos hchannel]
      refine .some ⟨?_, rfl⟩
      rw [← h.numbered.length_eq, List.getElem?_concat_length]
    · rw [if_neg hchannel, if_neg hchannel]
      exact h.leases_append _ channel
  · rw [granted_grants clock index u hgrant, if_neg hne]
    exact h.absent

/-- Both coordinators offer the same slot. -/
theorem offer (h : Shadows u ids ids' c d) {requester : String} {effects effects' : List Effect}
    (hne : requester ≠ u) (hnew : ¬ c.pool.Knows requester)
    (hoffer : Offer clock reach c requester effects c')
    (hoffer' : Offer clock reach d requester effects' d') :
    Alike u ids ids' effects effects' c' d' := by
  have hslots : d.pool.slots = c.pool.slots := by
    rw [h.pool_eq]
    rfl
  have hfirst_iff {index : Nat} {s : Slot} : d.pool.IsFirst index s ↔ c.pool.IsFirst index s := by
    rw [Pool.IsFirst, hslots, ← Pool.IsFirst]
  have hplace : (ids ++ [c.nextLease])[d.nextLease]? = some c.nextLease := by
    rw [← h.numbered.length_eq, List.getElem?_concat_length]
  have hother := hoffer.otherLeases_eq hne
  have hother' := hoffer'.otherLeases_eq hne
  cases hoffer with
  | granted index s hfirst hreach =>
    cases hoffer' with
    | granted index' s' hfirst' hreach' =>
      obtain ⟨rfl, rfl⟩ := hfirst.unique (hfirst_iff.mp hfirst')
      constructor
      · rw [hother, hother']
        exact h.granted hne hnew clock index
      · rw [hother]
        exact .cons (.acquired _ _ _ hplace) .nil
    | refused index' s' hfirst' hreach' =>
      rw [hreach] at hreach'
      cases hreach'
  | refused index s hfirst hreach =>
    cases hoffer' with
    | granted index' s' hfirst' hreach' =>
      rw [hreach] at hreach'
      cases hreach'
    | refused index' s' hfirst' hreach' =>
      constructor
      · rw [hother, hother']
        exact h.skipped_skipped
      · exact .nil

/-- An offer to `u` comes to nothing. -/
theorem offer_unreached (h : Shadows u ids ids' c d) {effects : List Effect}
    (hreach : reach u = false) (hoffer : Offer clock reach c u effects c') :
    Alike u ids ids' effects [] c' d := by
  have hother := hoffer.otherLeases_self
  cases hoffer with
  | granted index s hfirst hreach' =>
    rw [hreach] at hreach'
    cases hreach'
  | refused index s hfirst hreach' =>
    exact .of_silent h.skipped hother rfl rfl rfl

/-- While the first coordinator serves its waiting list, the second serves the same requests but
those of `u`. -/
theorem drained {effects effects' : List Effect} (h : Shadows u ids ids' c d) (hc : c.Sound)
    (hreach : reach u = false) (hdrain : Drained clock reach c effects c')
    (hdrain' : Drained clock reach d effects' d') : Alike u ids ids' effects effects' c' d' := by
  induction hdrain generalizing ids ids' d effects' d' with
  | done hrest =>
    cases hdrain' with
    | done hrest' => exact .of_silent h rfl rfl rfl rfl
    | serve hfree' hqueue' => exact absurd (h.settled hrest) (not_settled hfree' hqueue')
  | @serve c c' c'' r rest effects more hfree hqueue hoffer hmore ih =>
    obtain ⟨hpopped, hnew⟩ := hc.dequeue hqueue
    have hsound := hoffer.sound hpopped hfree hnew
    by_cases hr : r.requester = u
    · -- the offer comes to nothing, and the second coordinator does not even make it
      have hstay : Shadows u ids ids' (c.withQueue rest) d := by
        refine h.withQueue_left ?_
        rw [hqueue, List.filter_cons_of_neg (by simpa using hr)]
      rw [hr] at hoffer
      have hoffered := hstay.offer_unreached hreach hoffer
      exact hoffered.append (ih hoffered.shadows hsound hdrain')
    · have hqueue_eq := h.queue_eq
      rw [hqueue, List.filter_cons_of_pos (by simpa using hr)] at hqueue_eq
      have hfree' : 0 < d.pool.free := h.free_eq.symm ▸ hfree
      cases hdrain' with
      | done hrest' => exact absurd hrest' (not_settled hfree' hqueue_eq)
      | serve _ hqueue' hoffer' hmore' =>
        obtain ⟨rfl, rfl⟩ := List.cons.inj (hqueue_eq.symm.trans hqueue')
        have hoffered := (h.withQueue rfl).offer hr hnew hoffer hoffer'
        exact hoffered.append (ih hoffered.shadows hsound hmore')

/-! ### Changes -/

theorem cancelWatcher (h : Shadows u ids ids' c d) (lease lease' : Nat) :
    Shadows u ids ids' (c.cancelWatcher lease) (d.cancelWatcher lease') :=
  ⟨h.pool_eq, h.leases, h.numbered, h.absent⟩

/-- A lease of the first coordinator has a counterpart in the second. -/
theorem exists_lease (h : Shadows u ids ids' c d) {channel : String} {l : Lease}
    (hlease : c.leases.get? channel = some l) :
    ∃ l', d.leases.get? channel = some l' ∧ SameLease ids l l' := by
  have hleases := h.leases channel
  rw [hlease] at hleases
  cases hl' : d.leases.get? channel <;> rw [hl'] at hleases <;> cases hleases
  case some.some l' hsame => exact ⟨l', rfl, hsame⟩

/-- A lease of the second coordinator has a counterpart in the first. -/
theorem exists_lease' (h : Shadows u ids ids' c d) {channel : String} {l' : Lease}
    (hlease : d.leases.get? channel = some l') :
    ∃ l, c.leases.get? channel = some l ∧ SameLease ids l l' := by
  have hleases := h.leases channel
  rw [hlease] at hleases
  cases hl : c.leases.get? channel <;> rw [hl] at hleases <;> cases hleases
  case some.some l hsame => exact ⟨l, rfl, hsame⟩

theorem closed (h : Shadows u ids ids' c d) (channel : String) {l l' : Lease}
    (hsame : SameLease ids l l') :
    Shadows u ids ids' (c.closed channel l) (d.closed channel l') := by
  obtain ⟨hindex, hrequester⟩ : l'.index = l.index ∧ l'.requester = l.requester := by
    rw [hsame.2]
    exact ⟨rfl, rfl⟩
  refine ⟨?_, fun other => ?_, h.numbered, ?_⟩
  · rw [Coordinator.closed, Coordinator.closed, hindex, hrequester, h.pool_eq]
    exact Pool.tidy_ignoring (c.pool.vacate l.index l.requester)
  · rw [closed_leases, closed_leases]
    by_cases hother : channel = other
    · rw [if_pos hother, if_pos hother]
      exact .none
    · rw [if_neg hother, if_neg hother]
      exact h.leases other
  · rw [closed_grants, Assoc.get?_erase, h.absent, ite_self]

/-- Matching inputs change two coordinators alike. -/
theorem changed {input input' : Input} {effects effects' : List Effect}
    (h : Shadows u ids ids' c d) (hsettings : SameSettings c d) (hother : ¬ input.IsFrom u)
    (hmatches : input.Matches ids ids' input') (hchange : Changed clock reach c input effects c')
    (hchange' : Changed clock reach d input' effects' d') : Shadows u ids ids' c' d' := by
  cases hchange with
  | duplicate requester priority hknown =>
    cases hmatches
    cases hchange' with
    | duplicate => exact h
    | admitted _ _ hnew | queued _ _ hnew =>
      exact absurd ((h.knows_iff hother).mpr hknown) hnew
  | admitted requester priority hnew | queued requester priority hnew =>
    cases hmatches
    cases hchange' with
    | duplicate _ _ hknown => exact absurd ((h.knows_iff hother).mp hknown) hnew
    | admitted | queued => exact h.enqueue hother
  | released hlease honly hnotes =>
    obtain ⟨l', hlease', hsame⟩ := h.exists_lease hlease
    cases (hmatches.ends_iff h.numbered hsame.1).mp (.release _ honly) with
    | release only' honly' =>
      cases hchange' with
      | released hfound =>
        obtain rfl := Option.some.inj (hlease'.symm.trans hfound)
        exact (h.cancelWatcher _ _).closed _ hsame
      | strayRelease _ _ _ hstray =>
        obtain ⟨k, hk, hne⟩ := hstray l' hlease'
        exact absurd (honly' k hk) hne
  | strayRelease channel only n hstray =>
    obtain ⟨only', rfl⟩ := hmatches.exists_release
    cases hchange' with
    | released hlease' honly' =>
      obtain ⟨l, hlease, hsame⟩ := h.exists_lease' hlease'
      obtain ⟨k, hk, hne⟩ := hstray l hlease
      cases (hmatches.ends_iff h.numbered hsame.1).mpr (.release _ honly') with
      | release _ honly => exact absurd (honly k hk) hne
    | strayRelease => exact h
  | expired hlease hnotes =>
    obtain ⟨l', hlease', hsame⟩ := h.exists_lease hlease
    cases (hmatches.ends_iff h.numbered hsame.1).mp .expiry with
    | expiry =>
      generalize hid : l'.id = lease at hchange'
      cases hchange' with
      | expired hfound =>
        obtain rfl := Option.some.inj (hlease'.symm.trans hfound)
        exact h.closed _ hsame
      | strayExpiry _ hstray => exact absurd hid (hstray l' hlease')
  | strayExpiry e hstray =>
    obtain ⟨channel, k⟩ := e
    obtain ⟨k', rfl⟩ := hmatches.exists_expiry
    cases hchange' with
    | expired hlease' =>
      obtain ⟨l, hlease, hsame⟩ := h.exists_lease' hlease'
      cases (hmatches.ends_iff h.numbered hsame.1).mpr .expiry with
      | expiry => exact absurd rfl (hstray l hlease)
    | strayExpiry => exact h
  | resizeRejected =>
    cases hmatches
    cases hchange' with
    | resizeRejected => exact h
    | resized hsize => exact absurd hsize (Nat.lt_irrefl 0)
  | @resized size slots outcome hsize hresize hrefit =>
    cases hmatches
    cases hchange' with
    | resizeRejected => exact absurd hsize (Nat.lt_irrefl 0)
    | resized _ hresize' =>
      refine ⟨?_, h.leases, h.numbered, h.absent⟩
      rw [hsettings.name_eq, hsettings.provisioner_eq, h.pool_eq] at hresize'
      have hpool : ((c.pool.ignoring u).resize c.name c.provisioner.strategy clock size).1 =
          (c.pool.resize c.name c.provisioner.strategy clock size).1.ignoring u :=
        c.pool.resize_ignoring c.name c.provisioner.strategy clock size
      rw [hresize, hresize'] at hpool
      exact hpool
  | withdrawn requester hwaits =>
    cases hmatches
    cases hchange' with
    | withdrawn =>
      refine h.withQueue ?_
      rw [h.queue_eq, Pool.eraseP_ignoring _ hother]
    | notWaiting _ hgone => exact absurd ((h.waits_iff hother).mpr hwaits) hgone
  | notWaiting requester hgone =>
    cases hmatches
    cases hchange' with
    | withdrawn _ hwaits => exact absurd ((h.waits_iff hother).mp hwaits) hgone
    | notWaiting => exact h
  | status | allocation =>
    cases hmatches
    cases hchange'
    exact h

/-- The responses to a change are the same, as the same requests are on the waiting list. -/
theorem changed_alike {input input' : Input} {effects effects' : List Effect}
    (h : Shadows u ids ids' c d) (hsettings : SameSettings c d) (hother : ¬ input.IsFrom u)
    (hmatches : input.Matches ids ids' input') (hchange : Changed clock reach c input effects c')
    (hchange' : Changed clock reach d input' effects' d') :
    Alike u ids ids' effects effects' c' d' := by
  constructor
  · rw [hchange.otherLeases_eq, hchange'.otherLeases_eq, List.append_nil, List.append_nil]
    exact h.changed hsettings hother hmatches hchange hchange'
  · by_cases hcancel : ∃ requester, input = .message (.cancel requester)
    · obtain ⟨requester, rfl⟩ := hcancel
      cases hmatches
      rw [hchange.cancel_delivered, hchange'.cancel_delivered]
      simp only [h.waits_iff hother]
      split
      · exact .cons (.cancelled requester) .nil
      · exact .nil
    · have hcancel' : ¬ ∃ requester, input' = .message (.cancel requester) := by
        rintro ⟨requester, rfl⟩
        cases hmatches
        exact hcancel ⟨requester, rfl⟩
      rw [hchange.delivered_eq_nil hcancel, hchange'.delivered_eq_nil hcancel']
      exact .nil

/-- What comes from `u` changes nothing for the second coordinator. -/
theorem changed_left {input : Input} {effects : List Effect} (h : Shadows u ids ids' c d)
    (hc : c.Sound) (hreach : reach u = false) (hfrom : input.IsFrom u)
    (hchange : Changed clock reach c input effects c') : Alike u ids ids' effects [] c' d := by
  cases hchange with
  | duplicate requester priority hknown => exact .of_silent h rfl rfl rfl rfl
  | admitted requester priority hnew | queued requester priority hnew =>
    have hself : requester = u := hfrom
    refine .of_silent (h.withQueue_left ?_) rfl rfl rfl rfl
    simp [hself]
  | @released channel only l notes hlease honly hnotes =>
    -- the lease would belong to a grant of `u`
    have hchannel : channel = releaseChannel u := hfrom
    obtain ⟨hname, hgrant⟩ := hc.grant_of_lease channel l hlease
    rw [releaseChannel_injective (hname.symm.trans hchannel), h.absent] at hgrant
    cases hgrant
  | strayRelease | notWaiting => exact .of_silent h rfl rfl rfl rfl
  | withdrawn requester hwaits =>
    obtain rfl : requester = u := hfrom
    rw [hreach]
    exact .of_silent (h.withQueue_left (Pool.filter_eraseP_self _)) rfl rfl rfl rfl
  | expired | strayExpiry | resizeRejected | resized | status | allocation => exact hfrom.elim

/-! ### Steps -/

theorem stepped {input input' : Input} {effects effects' : List Effect}
    (h : Shadows u ids ids' c d) (hsettings : SameSettings c d) (hc : c.Sound)
    (hreach : reach u = false) (hother : ¬ input.IsFrom u)
    (hmatches : input.Matches ids ids' input')
    (hstep : Stepped clock reach c input effects c')
    (hstep' : Stepped clock reach d input' effects' d') :
    Alike u ids ids' effects effects' c' d' := by
  cases hstep with
  | intro hchange hdrain =>
    cases hstep' with
    | intro hchange' hdrain' =>
      have hchanged := h.changed_alike hsettings hother hmatches hchange hchange'
      exact hchanged.append (hchanged.shadows.drained (hchange.sound hc) hreach hdrain hdrain')

theorem stepped_left {input : Input} {effects : List Effect} (h : Shadows u ids ids' c d)
    (hc : c.Sound) (hd : d.Settled) (hreach : reach u = false) (hfrom : input.IsFrom u)
    (hstep : Stepped clock reach c input effects c') : Alike u ids ids' effects [] c' d := by
  cases hstep with
  | intro hchange hdrain =>
    have hchanged := h.changed_left hc hreach hfrom hchange
    exact hchanged.append
      (hchanged.shadows.drained (hchange.sound hc) hreach hdrain (Drained.done hd))

end Shadows

/-! ### Runs -/

theorem Without.keep_same {os os' : List Occasion} (h : Without u c os os') (o : Occasion)
    (hother : ¬ o.input.IsFrom u) (hnone : ∀ k, ¬ Names k o.input) :
    Without u c (os ++ [o]) (os' ++ [o]) :=
  h.keep o hother (.same hnone)

/-- The two coordinators of a run and its reduced run stay alike. -/
theorem Without.alike {os os' : List Occasion} (h : Without u c os os') (hc : c.Resting)
    (hstart : Shadows u [] [] c c) (hunreached : ∀ o ∈ os, o.reach u = false) :
    Alike u [] [] (c.run os).2 (c.run os').2 (c.run os).1 (c.run os').1 := by
  induction h with
  | nil => exact .of_silent hstart rfl rfl rfl rfl
  | @drop os os' h o hfrom ih =>
    -- the second run stays where it is
    have hso_far := ih fun o' ho' => hunreached o' (List.mem_append_left _ ho')
    have hreach := hunreached o (List.mem_append_right _ (List.mem_singleton_self o))
    have hresting := hc.run os
    have hstepped := hso_far.shadows.stepped_left hresting.toSound (hc.run os').settled hreach
      hfrom (hresting.stepped o)
    rw [run_concat]
    have hboth := hso_far.append hstepped
    rwa [List.append_nil] at hboth
  | @keep os os' h o input hother hmatches ih =>
    have hso_far := ih fun o' ho' => hunreached o' (List.mem_append_left _ ho')
    have hreach := hunreached o (List.mem_append_right _ (List.mem_singleton_self o))
    have hresting := hc.run os
    have hsettings := (hc.run_sameSettings os).symm.trans (hc.run_sameSettings os')
    have hstepped := hso_far.shadows.stepped hsettings hresting.toSound hreach hother hmatches
      (hresting.stepped o) ((hc.run os').stepped { o with input })
    rw [run_concat, run_concat]
    exact hso_far.append hstepped

/-- Every run can be reduced. -/
theorem exists_without (hc : c.Resting) (hstart : Shadows u [] [] c c) (os : List Occasion)
    (hunreached : ∀ o ∈ os, o.reach u = false) : ∃ os', Without u c os os' := by
  induction os using List.reverseRecOn with
  | nil => exact ⟨[], .nil⟩
  | append_singleton os o ih =>
    have hbefore : ∀ o' ∈ os, o'.reach u = false := fun o' ho' =>
      hunreached o' (List.mem_append_left _ ho')
    obtain ⟨os', h⟩ := ih hbefore
    by_cases hfrom : o.input.IsFrom u
    · exact ⟨os', .drop h o hfrom⟩
    · obtain ⟨input', hmatches⟩ :=
        (h.alike hc hstart hbefore).shadows.numbered.exists_matches o.input
      exact ⟨_, .keep h o hfrom hmatches⟩

theorem shadows_create {name : PoolName} {options : PoolOptions} {now : Readings} {e : Event}
    (hcreate : create name options now = .ok (c, e)) (u : String) : Shadows u [] [] c c := by
  obtain ⟨-, rfl, -⟩ := create_eq_ok hcreate
  exact ⟨rfl, fun _ => .none, ⟨rfl, rfl, .nil, nofun⟩, rfl⟩

/-- A requester whom no response reaches makes no difference to the others. Every run can be
reduced by what comes from that requester. After it the pools are equal but for the waiting list,
which is without the requester, and the same responses were received in the same order, with the
leases renumbered. -/
theorem create_run_without {name : PoolName} {options : PoolOptions} {now : Readings} {e : Event}
    (hcreate : create name options now = .ok (c, e)) {u : String} {os : List Occasion}
    (hunreached : ∀ o ∈ os, o.reach u = false) :
    (∃ os', Without u c os os') ∧
      ∀ os', Without u c os os' →
        (c.run os').1.pool = (c.run os).1.pool.ignoring u ∧
        ∃ f : Nat → Nat, StrictMono f ∧ (c.otherLeases u os').map f = c.otherLeases u os ∧
          (c.run os).2.filterMap Effect.delivered? =
            ((c.run os').2.filterMap Effect.delivered?).map fun x => (x.1, x.2.renumber f) := by
  have hc := resting_create hcreate
  have hstart := shadows_create hcreate u
  refine ⟨exists_without hc hstart os hunreached, fun os' h => ?_⟩
  obtain ⟨hshadows, hresponses⟩ := h.alike hc hstart hunreached
  exact ⟨hshadows.pool_eq, _, hshadows.numbered.strictMono_rename,
    hshadows.numbered.map_rename, map_renumber hresponses _⟩

/-- Three requests for one slot, of which the second is rolled back, so that the third is granted
under another id than without the second. -/
theorem create_run_without_second :
    ∃ c e, create ⟨"space", "disk"⟩ ⟨1, none, .plain, 1000⟩ default = .ok (c, e) ∧
      let occasion (m : Message) : Occasion := ⟨default, fun r => r != "b", .message m⟩
      let os := [.request "a" 0, .request "b" 0, .request "c" 0,
        .release (releaseChannel "a") none, .release (releaseChannel "c") (some 2)].map occasion
      let os' := [.request "a" 0, .request "c" 0,
        .release (releaseChannel "a") none, .release (releaseChannel "c") (some 1)].map occasion
      (∀ o ∈ os, o.reach "b" = false) ∧ Without "b" c os os' ∧
        c.otherLeases "b" os = [0, 2] ∧ c.otherLeases "b" os' = [0, 1] ∧
        (c.run os').1.pool = (c.run os).1.pool.ignoring "b" := by
  let c : Coordinator := ⟨⟨"space", "disk"⟩, .plain, none,
    .ofSlots (Provisioner.plain.stock ⟨"space", "disk"⟩ default 1), [], 0, []⟩
  have hcreate : create ⟨"space", "disk"⟩ ⟨1, none, .plain, 1000⟩ default =
      .ok (c, .started 1 "default") := rfl
  have hlast : SameGrant [0, 2] [0, 1] 2 1
    | 0 => by decide
    | 1 => by decide
    | j + 2 => by simp
  refine ⟨c, _, hcreate, ?_⟩
  intro occasion os os'
  have hreach : ∀ o ∈ os, o.reach "b" = false := by decide
  have hwithout : Without "b" c os os' := by
    have hwaiting := (((Without.nil (c := c)).keep_same (occasion (.request "a" 0)) (by decide)
      nofun).drop (occasion (.request "b" 0)) rfl).keep_same (occasion (.request "c" 0))
      (by decide) nofun
    have hgranted := hwaiting.keep_same (occasion (.release (releaseChannel "a") none)) (by decide)
      nofun
    exact hgranted.keep (occasion (.release (releaseChannel "c") (some 2))) (by decide)
      (.release _ hlast)
  exact ⟨hreach, hwithout, rfl, rfl, ((create_run_without hcreate hreach).2 os' hwithout).1⟩

end Coordinator

end LeasePool
