import LeasePool.Proofs.Steps

/-!
Runs of a coordinator: any inputs in any order, each with readings of the clocks and with an answer
for each requester whether a response reaches it. No step addresses a requester twice, so that one
answer for each covers every pattern of outcomes. A run keeps a coordinator sound and at rest, and
so its pool passes every audit.
-/
namespace LeasePool

namespace Effect

/-- The requester to whom a response is sent. -/
def addressee? : Effect → Option String
  | .delivery requester _ _ => some requester
  | _ => none

/-- The lease that an attempt to grant a slot is about. -/
def offeredLease? : Effect → Option Nat
  | .delivery _ (.acquired _ lease _) _ => some lease
  | _ => none

/-- Whether an effect belongs to an attempt to grant a slot. -/
def isOffer : Effect → Bool
  | .delivery _ (.acquired ..) _ => true
  | .event (.granted ..) => true
  | .event (.rolledBack ..) => true
  | _ => false

end Effect

namespace Coordinator

/-- What a coordinator takes up, when, and whom its responses reach then. -/
structure Occasion where
  clock : Readings
  reach : String → Bool
  input : Input

variable {c c' : Coordinator} {clock : Readings} {reach : String → Bool}

/-- The coordinator after a run, and the effects of all its steps. -/
def run (c : Coordinator) : List Occasion → Coordinator × List Effect
  | [] => (c, [])
  | o :: rest =>
    let (c', effects) := c.step o.clock o.reach o.input
    let (c'', more) := run c' rest
    (c'', effects ++ more)

theorem run_cons (c : Coordinator) (o : Occasion) (os : List Occasion) :
    c.run (o :: os) =
      (((c.step o.clock o.reach o.input).1.run os).1,
        (c.step o.clock o.reach o.input).2 ++ ((c.step o.clock o.reach o.input).1.run os).2) :=
  rfl

theorem run_append (c : Coordinator) (os os' : List Occasion) :
    c.run (os ++ os') = (((c.run os).1.run os').1, (c.run os).2 ++ ((c.run os).1.run os').2) := by
  induction os generalizing c with
  | nil => rfl
  | cons o os ih => rw [List.cons_append, run_cons, run_cons, ih, List.append_assoc]

theorem run_concat (c : Coordinator) (os : List Occasion) (o : Occasion) :
    c.run (os ++ [o]) =
      (((c.run os).1.step o.clock o.reach o.input).1,
        (c.run os).2 ++ ((c.run os).1.step o.clock o.reach o.input).2) := by
  rw [run_append, run_cons, run, List.append_nil]

/-! ### Coordinators at rest -/

/-- A coordinator between steps. -/
structure Resting (c : Coordinator) : Prop extends c.Sound where
  settled : c.Settled

theorem Resting.stepped (h : c.Resting) (o : Occasion) :
    Stepped o.clock o.reach c o.input (c.step o.clock o.reach o.input).2
      (c.step o.clock o.reach o.input).1 :=
  h.toSound.step h.settled o.clock o.reach o.input

theorem Resting.step (h : c.Resting) (o : Occasion) :
    (c.step o.clock o.reach o.input).1.Resting :=
  ⟨(h.stepped o).sound h.toSound, (h.stepped o).settled⟩

theorem Resting.run (h : c.Resting) (os : List Occasion) : (c.run os).1.Resting := by
  induction os generalizing c with
  | nil => exact h
  | cons o os ih => exact ih (h.step o)

/-- The timers of a coordinator do not matter for its rest. -/
theorem Resting.fireWatcher (h : c.Resting) (lease : Nat) : (c.fireWatcher lease).Resting :=
  ⟨⟨h.pool, h.lease_of_grant, h.grant_of_lease, h.lease_lt, h.lease_unique⟩, h.settled⟩

/-! ### Settings -/

/-- The settings of the first coordinator are those of the second. -/
structure SameSettings (c c' : Coordinator) : Prop where
  name_eq : c'.name = c.name
  provisioner_eq : c'.provisioner = c.provisioner
  leaseTimeout_eq : c'.leaseTimeout = c.leaseTimeout

theorem SameSettings.refl (c : Coordinator) : SameSettings c c := ⟨rfl, rfl, rfl⟩

theorem SameSettings.symm (h : SameSettings c c') : SameSettings c' c :=
  ⟨h.name_eq.symm, h.provisioner_eq.symm, h.leaseTimeout_eq.symm⟩

theorem SameSettings.trans {c'' : Coordinator} (h : SameSettings c c')
    (h' : SameSettings c' c'') : SameSettings c c'' :=
  ⟨h'.name_eq.trans h.name_eq, h'.provisioner_eq.trans h.provisioner_eq,
    h'.leaseTimeout_eq.trans h.leaseTimeout_eq⟩

theorem Offer.sameSettings {requester : String} {effects : List Effect}
    (hoffer : Offer clock reach c requester effects c') : SameSettings c c' := by
  cases hoffer <;> exact ⟨rfl, rfl, rfl⟩

theorem Drained.sameSettings {effects : List Effect}
    (hdrain : Drained clock reach c effects c') : SameSettings c c' := by
  induction hdrain with
  | done hrest => exact .refl _
  | @serve c c' c'' r rest effects more hfree hqueue hoffer hmore ih =>
    have hpopped : SameSettings c (c.withQueue rest) := ⟨rfl, rfl, rfl⟩
    exact (hpopped.trans hoffer.sameSettings).trans ih

theorem Stepped.sameSettings {input : Input} {effects : List Effect}
    (hstep : Stepped clock reach c input effects c') : SameSettings c c' := by
  cases hstep with
  | @intro first more c₁ c' hchange hdrain =>
    have hchanged : SameSettings c c₁ := by cases hchange <;> exact ⟨rfl, rfl, rfl⟩
    exact hchanged.trans hdrain.sameSettings

/-- A run never changes the settings. -/
theorem Resting.run_sameSettings (h : c.Resting) (os : List Occasion) :
    SameSettings c (c.run os).1 := by
  induction os generalizing c with
  | nil => exact .refl c
  | cons o os ih => exact (h.stepped o).sameSettings.trans (ih (h.step o))

/-! ### New coordinators -/

theorem resting_create {name : PoolName} {options : PoolOptions} {now : Readings} {e : Event}
    (h : create name options now = .ok (c, e)) : c.Resting := by
  refine ⟨sound_create h, Or.inr ?_⟩
  obtain ⟨-, rfl, -⟩ := create_eq_ok h
  rfl

/-! ### The effects of changes -/

theorem filterMap_closing {β : Type} {f : Effect → Option β} (hf : ∀ n : Note, f (.note n) = none)
    (clock : Readings) (l : Lease) (reason : ReleaseReason) (notes : List Note) :
    (closing clock l reason notes).filterMap f =
      (f (.event (.released l.requester l.index reason
        (Duration.between l.grantedAt clock.ended)))).toList := by
  have hnotes : (notes.map Effect.note).filterMap f = [] := by
    rw [List.filterMap_eq_nil_iff]
    intro effect heffect
    obtain ⟨n, -, rfl⟩ := List.mem_map.mp heffect
    exact hf n
  rw [closing, List.filterMap_append, hnotes, List.nil_append, List.filterMap_cons, hf]
  cases hevent : f (.event (.released l.requester l.index reason
    (Duration.between l.grantedAt clock.ended))) <;> simp [hevent]

theorem not_isOffer_closing (clock : Readings) (l : Lease) (reason : ReleaseReason)
    (notes : List Note) : ∀ effect ∈ closing clock l reason notes, effect.isOffer = false := by
  intro effect heffect
  rcases List.mem_append.mp heffect with hnote | hreport
  · obtain ⟨n, -, rfl⟩ := List.mem_map.mp hnote
    rfl
  · rcases List.mem_pair.mp hreport with rfl | rfl <;> rfl

/-- No change offers a slot. -/
theorem Changed.not_isOffer {input : Input} {effects : List Effect}
    (hchange : Changed clock reach c input effects c') :
    ∀ effect ∈ effects, effect.isOffer = false := by
  cases hchange with
  | released hlease honly hnotes =>
    exact List.forall_mem_cons.mpr ⟨rfl, not_isOffer_closing clock _ _ _⟩
  | expired hlease hnotes => exact not_isOffer_closing clock _ _ _
  | withdrawn requester hwaits => cases reach requester <;> simp [Effect.isOffer]
  | _ => simp [Effect.isOffer]

theorem Changed.filterMap_eq_nil {β : Type} {f : Effect → Option β} {input : Input}
    {effects : List Effect} (hchange : Changed clock reach c input effects c')
    (hf : ∀ effect, effect.isOffer = false → f effect = none) : effects.filterMap f = [] :=
  List.filterMap_eq_nil_iff.mpr fun effect heffect =>
    hf effect (hchange.not_isOffer effect heffect)

theorem Changed.not_offered {input : Input} {effects : List Effect}
    (hchange : Changed clock reach c input effects c') :
    effects.filterMap Effect.offeredLease? = [] :=
  hchange.filterMap_eq_nil fun
    | .delivery _ (.acquired ..) _, h => nomatch h
    | .delivery _ .cancelled _, _ | .event _, _ | .note _, _ | .answer _, _ => rfl

/-- While the waiting list is served, only attempts to grant a slot are reported. -/
theorem Drained.isOffer_event {effects : List Effect}
    (hdrain : Drained clock reach c effects c') :
    ∀ e ∈ effects.filterMap Effect.event?, (Effect.event e).isOffer = true := by
  induction hdrain with
  | done hrest => exact nofun
  | @serve c c' c'' r rest effects more hfree hqueue hoffer hmore ih =>
    rw [List.filterMap_append]
    refine List.forall_mem_append.mpr ⟨?_, ih⟩
    cases hoffer <;> exact List.forall_mem_singleton.mpr rfl

/-! ### Whom a step addresses -/

theorem Offer.addressees_eq {requester : String} {effects : List Effect}
    (hoffer : Offer clock reach c requester effects c') :
    effects.filterMap Effect.addressee? = [requester] := by
  cases hoffer <;> rfl

/-- The requests served are the first ones of the waiting list. -/
theorem Drained.addressees_append {effects : List Effect}
    (hdrain : Drained clock reach c effects c') :
    effects.filterMap Effect.addressee? ++ c'.pool.queue.map Pending.requester =
      c.pool.queue.map Pending.requester := by
  induction hdrain with
  | done hrest => rfl
  | serve hfree hqueue hoffer hmore ih =>
    rw [hoffer.queue_eq] at ih
    rw [List.filterMap_append, hoffer.addressees_eq, List.append_assoc, ih, hqueue]
    rfl

/-- Whom a change addresses, it takes off the waiting list. -/
theorem Changed.addressees_nodup {input : Input} {effects : List Effect}
    (hchange : Changed clock reach c input effects c') (h : c.Sound) :
    (effects.filterMap Effect.addressee? ++ c'.pool.queue.map Pending.requester).Nodup := by
  have hqueue := (hchange.sound h).pool.known_nodup.of_append_right
  cases hchange with
  | released hlease honly hnotes =>
    rw [List.filterMap_cons_none rfl, filterMap_closing fun _ => rfl]
    exact hqueue
  | expired hlease hnotes =>
    rw [filterMap_closing fun _ => rfl]
    exact hqueue
  | withdrawn requester hwaits =>
    have hold := h.pool.known_nodup.of_append_right
    have hgone : requester ∉
        (c.pool.queue.eraseP fun r => r.requester == requester).map Pending.requester := by
      rw [Pool.map_requester_eraseP]
      exact hold.not_mem_erase
    have hfirst : (Effect.note .handling :: .delivery requester .cancelled (reach requester) ::
        (if reach requester then [] else [Effect.note .cancellationUndeliverable]) ++
          [Effect.event (.waitCancelled requester)]).filterMap Effect.addressee? = [requester] := by
      cases reach requester <;> rfl
    rw [hfirst]
    exact List.nodup_cons.mpr ⟨hgone, hqueue⟩
  | _ => exact hqueue

theorem Stepped.addressees_nodup {input : Input} {effects : List Effect}
    (hstep : Stepped clock reach c input effects c') (h : c.Sound) :
    (effects.filterMap Effect.addressee?).Nodup := by
  cases hstep with
  | intro hchange hdrain =>
    have hnodup := hchange.addressees_nodup h
    rw [← hdrain.addressees_append, ← List.append_assoc, ← List.filterMap_append] at hnodup
    exact hnodup.of_append_left

/-! ### The accounts after every run -/

/-- A pool of positive size can be created, and after every run of its coordinator an audit finds
nothing. -/
theorem create_run_orderly (name : PoolName) (options : PoolOptions) (now : Readings)
    (hsize : 0 < options.size) :
    ∃ c e, create name options now = .ok (c, e) ∧
      ∀ os, (c.run os).1.pool.audit = none ∧ (c.run os).1.pool.Orderly := by
  obtain ⟨c, e, hcreate⟩ := exists_create name now hsize
  refine ⟨c, e, hcreate, fun os => ?_⟩
  have hrun := ((resting_create hcreate).run os).pool
  exact ⟨(Pool.audit_eq_none_iff _).mpr hrun.consistent, hrun.orderly⟩

/-- The case of two slots of the custom provisioner, with a lease timeout. -/
theorem create_run_orderly_two :
    0 < (PoolOptions.mk 2 (some .zero) (.custom "gpu" []) 1000).size ∧
      ∃ c e, create ⟨"space", "gpu"⟩ ⟨2, some .zero, .custom "gpu" [], 1000⟩ default =
          .ok (c, e) ∧
        ∀ os, (c.run os).1.pool.audit = none ∧ (c.run os).1.pool.Orderly :=
  ⟨by decide, create_run_orderly _ _ _ (by decide)⟩

end Coordinator

end LeasePool
