import LeasePool.Coordinator
import LeasePool.Proofs.Grants
import LeasePool.Proofs.Resizing
import LeasePool.Proofs.Returns

/-!
The leases of a coordinator mirror the grants of its pool. Each grant has one lease, under the
release channel of its requester, and lease ids are never used twice. What a coordinator does to its
pool and its leases keeps this: granting, queueing, resizing, and ending a lease.
-/
namespace LeasePool.Coordinator

variable {c : Coordinator}

/-- The pool's accounts balance, and leases and grants belong together. -/
structure Sound (c : Coordinator) : Prop where
  pool : c.pool.Sound c.provisioner c.name
  lease_of_grant : ∀ (r : String) (i : Nat), c.pool.grants.get? r = some i →
    ∃ l, c.leases.get? (releaseChannel r) = some l ∧ l.requester = r ∧ l.index = i
  grant_of_lease : ∀ (channel : String) (l : Lease), c.leases.get? channel = some l →
    channel = releaseChannel l.requester ∧ c.pool.grants.get? l.requester = some l.index
  lease_lt : ∀ (channel : String) (l : Lease), c.leases.get? channel = some l →
    l.id < c.nextLease
  lease_unique : ∀ (channel channel' : String) (l l' : Lease),
    c.leases.get? channel = some l → c.leases.get? channel' = some l' → l.id = l'.id →
      channel = channel'

/-! ### Granting -/

/-- The coordinator after a delivered grant of the slot at an index. -/
def granted (c : Coordinator) (clock : Readings) (index : Nat) (requester : String) : Coordinator :=
  ({ c with
    pool := c.pool.grant (clock.acquired requester) index requester
    nextLease := c.nextLease + 1 } : Coordinator).startLease clock c.nextLease index requester

/-- The coordinator after a grant that could not be delivered. -/
def skipped (c : Coordinator) : Coordinator := { c with nextLease := c.nextLease + 1 }

theorem granted_leases (c : Coordinator) (clock : Readings) (index : Nat) (r channel : String) :
    (c.granted clock index r).leases.get? channel =
      if releaseChannel r = channel then some ⟨c.nextLease, index, r, clock.granted r⟩
      else c.leases.get? channel :=
  Assoc.get?_put (releaseChannel r) channel _ c.leases

theorem granted_grants {r : String} (clock : Readings) (index : Nat) (r' : String)
    (hnew : c.pool.grants.get? r = none) :
    (c.granted clock index r).pool.grants.get? r' =
      if r = r' then some index else c.pool.grants.get? r' := by
  have happend : (c.granted clock index r).pool.grants = c.pool.grants.put r index :=
    (Assoc.put_of_get?_eq_none index hnew).symm
  rw [happend, Assoc.get?_put]

theorem Sound.skipped (h : c.Sound) : c.skipped.Sound where
  pool := h.pool
  lease_of_grant := h.lease_of_grant
  grant_of_lease := h.grant_of_lease
  lease_lt channel l hl := Nat.lt_succ_of_lt (h.lease_lt channel l hl)
  lease_unique := h.lease_unique

theorem Sound.granted {index : Nat} {s : Slot} {r : String} (h : c.Sound) (clock : Readings)
    (hfree : 0 < c.pool.free) (hfirst : c.pool.IsFirst index s) (hnew : ¬ c.pool.Knows r) :
    (c.granted clock index r).Sound := by
  have hgrant := ((Pool.Accounted.not_knows_iff c.pool r).mp hnew).1
  constructor
  · exact h.pool.grant (clock.acquired r) hfree hfirst hnew
  · intro r' i hi
    rw [granted_grants clock index r' hgrant] at hi
    rw [granted_leases]
    by_cases hr : r = r'
    · subst r'
      rw [if_pos rfl, Option.some.injEq] at hi
      rw [if_pos rfl]
      exact ⟨_, rfl, rfl, hi⟩
    · rw [if_neg hr] at hi
      rw [if_neg fun heq => hr (releaseChannel_injective heq)]
      exact h.lease_of_grant r' i hi
  · intro channel l hl
    rw [granted_leases] at hl
    rw [granted_grants clock index l.requester hgrant]
    by_cases hchannel : releaseChannel r = channel
    · rw [if_pos hchannel, Option.some.injEq] at hl
      subst hl
      exact ⟨hchannel.symm, if_pos rfl⟩
    · rw [if_neg hchannel] at hl
      obtain ⟨hname, hheld⟩ := h.grant_of_lease channel l hl
      refine ⟨hname, ?_⟩
      rw [if_neg fun heq => hchannel ((congrArg releaseChannel heq).trans hname.symm)]
      exact hheld
  · intro channel l hl
    rw [granted_leases] at hl
    split at hl
    · rw [← Option.some.inj hl]
      exact Nat.lt_succ_self c.nextLease
    · exact Nat.lt_succ_of_lt (h.lease_lt channel l hl)
  · intro channel channel' l l' hl hl' hid
    rw [granted_leases] at hl hl'
    split at hl <;> split at hl'
    case isTrue.isTrue hchannel hchannel' => exact hchannel.symm.trans hchannel'
    case isTrue.isFalse =>
      have hlt := h.lease_lt channel' l' hl'
      rw [← hid, ← Option.some.inj hl] at hlt
      exact absurd hlt (Nat.lt_irrefl _)
    case isFalse.isTrue =>
      have hlt := h.lease_lt channel l hl
      rw [hid, ← Option.some.inj hl'] at hlt
      exact absurd hlt (Nat.lt_irrefl _)
    case isFalse.isFalse => exact h.lease_unique channel channel' l l' hl hl' hid

/-! ### Changes of the pool that leave the grants alone -/

theorem Sound.of_pool (h : c.Sound) (pool : Pool) (hpool : pool.Sound c.provisioner c.name)
    (hgrants : pool.grants = c.pool.grants) : ({ c with pool } : Coordinator).Sound where
  pool := hpool
  lease_of_grant := by
    simp only [hgrants]
    exact h.lease_of_grant
  grant_of_lease := by
    simp only [hgrants]
    exact h.grant_of_lease
  lease_lt := h.lease_lt
  lease_unique := h.lease_unique

/-! ### Ending a lease -/

/-- The coordinator after a lease was taken off a channel and its slot given back. -/
def closed (c : Coordinator) (channel : String) (l : Lease) : Coordinator :=
  { c with
    leases := c.leases.erase channel
    pool := (c.pool.vacate l.index l.requester).tidy }

theorem closed_leases (c : Coordinator) (channel other : String) (l : Lease) :
    (c.closed channel l).leases.get? other =
      if channel = other then none else c.leases.get? other :=
  Assoc.get?_erase channel other c.leases

theorem closed_grants (c : Coordinator) (channel : String) (l : Lease) :
    (c.closed channel l).pool.grants = c.pool.grants.erase l.requester :=
  (c.pool.vacate l.index l.requester).tidy_grants

theorem Sound.closed {channel : String} {l : Lease} (h : c.Sound)
    (hl : c.leases.get? channel = some l) : (c.closed channel l).Sound := by
  obtain ⟨hchannel, hgrant⟩ := h.grant_of_lease channel l hl
  constructor
  · exact (h.pool.toAccounted.vacate hgrant).sound_tidy
  · intro r i hi
    rw [closed_grants, Assoc.get?_erase] at hi
    by_cases hr : l.requester = r
    · rw [if_pos hr] at hi
      cases hi
    · rw [if_neg hr] at hi
      rw [closed_leases, if_neg fun heq => hr (releaseChannel_injective (hchannel ▸ heq))]
      exact h.lease_of_grant r i hi
  · intro channel' l' hl'
    rw [closed_leases] at hl'
    by_cases hsame : channel = channel'
    · rw [if_pos hsame] at hl'
      cases hl'
    · rw [if_neg hsame] at hl'
      obtain ⟨hname, hheld⟩ := h.grant_of_lease channel' l' hl'
      refine ⟨hname, ?_⟩
      rw [closed_grants, Assoc.get?_erase,
        if_neg fun heq => hsame (hchannel.trans ((congrArg releaseChannel heq).trans hname.symm))]
      exact hheld
  · intro channel' l' hl'
    rw [closed_leases] at hl'
    split at hl'
    · cases hl'
    · exact h.lease_lt channel' l' hl'
  · intro channel₁ channel₂ l₁ l₂ hl₁ hl₂ hid
    rw [closed_leases] at hl₁ hl₂
    split at hl₁
    · cases hl₁
    · split at hl₂
      · cases hl₂
      · exact h.lease_unique channel₁ channel₂ l₁ l₂ hl₁ hl₂ hid

theorem Sound.cancelWatcher (h : c.Sound) (lease : Nat) : (c.cancelWatcher lease).Sound :=
  ⟨h.pool, h.lease_of_grant, h.grant_of_lease, h.lease_lt, h.lease_unique⟩

/-! ### New coordinators -/

/-- What `create` makes. -/
theorem create_eq_ok {name : PoolName} {options : PoolOptions} {now : Readings} {e : Event}
    (h : create name options now = .ok (c, e)) :
    0 < options.size ∧
      c = ⟨name, options.provisioner, options.leaseTimeout,
        .ofSlots (options.provisioner.stock name now options.size), [], 0, []⟩ ∧
      e = .started options.size options.provisioner.name := by
  unfold create at h
  by_cases hsize : options.size = 0
  · rw [if_pos hsize] at h
    cases h
  · rw [if_neg hsize] at h
    injection h with hpair
    obtain ⟨hc, he⟩ := Prod.mk.inj hpair
    exact ⟨Nat.pos_of_ne_zero hsize, hc.symm, he.symm⟩

/-- Every pool of positive size can be created. -/
theorem exists_create (name : PoolName) {options : PoolOptions} (now : Readings)
    (hsize : 0 < options.size) : ∃ c e, create name options now = .ok (c, e) :=
  ⟨_, _, if_neg (Nat.ne_of_gt hsize)⟩

theorem sound_create {name : PoolName} {options : PoolOptions} {now : Readings} {e : Event}
    (h : create name options now = .ok (c, e)) : c.Sound := by
  obtain ⟨hsize, rfl, -⟩ := create_eq_ok h
  constructor
  · exact Pool.sound_ofSlots _ _ _ _ hsize
  all_goals simp [Pool.ofSlots]

/-! ### Starts -/

theorem start_of_fits {name : PoolName} {options : PoolOptions} {now : Readings}
    (hfits : options.Fits) :
    start name options now = (create name options now).mapError .refused :=
  if_pos (Or.inr hfits)

theorem start_of_size_eq_zero {name : PoolName} {options : PoolOptions} {now : Readings}
    (hsize : options.size = 0) :
    start name options now = .error (.refused (.invalidSize 0)) := by
  rw [start, if_pos (Or.inl hsize), create, if_pos hsize]
  rfl

/-- A start breaks off if there are too many slots, or if the inbox is too long. -/
theorem start_of_not_fits {name : PoolName} {options : PoolOptions} {now : Readings}
    (hsize : 0 < options.size) (hover : ¬ options.Fits) :
    start name options now = .error .overflow :=
  if_neg (not_or.mpr ⟨Nat.ne_of_gt hsize, hover⟩)

/-- What starts was created. -/
theorem create_of_start {name : PoolName} {options : PoolOptions} {now : Readings} {e : Event}
    (hstart : start name options now = .ok (c, e)) : create name options now = .ok (c, e) := by
  unfold start at hstart
  split at hstart
  case isTrue =>
    cases hcreate : create name options now with
    | ok result =>
      rw [hcreate] at hstart
      exact congrArg Except.ok (Except.ok.inj hstart)
    | error refusal =>
      rw [hcreate] at hstart
      cases hstart
  case isFalse => cases hstart

end LeasePool.Coordinator

