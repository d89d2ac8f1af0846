import LeasePool.Proofs.Runs

/-!
Idle pools. Once nothing is held, the pool is what a new pool of its target size would be: whatever
was retired is back or gone, nobody waits, and no slot tells who held it. Only the metadata of the
custom provisioner's slots tells when they were made, and whether by an expansion.
-/
namespace LeasePool

/-- The keys under which the custom provisioner records how a resource came about. -/
def MetaKey.provenance : List String := [createdAt, expanded, expandedAt]

namespace Fields

/-- The fields under other keys. -/
def without (keys : List String) (fields : Fields) : Fields :=
  fields.filter fun field => field.1 ∉ keys

theorem without_insert {keys : List String} {key : String} (hkey : key ∈ keys) (value : Json)
    (fields : Fields) : (fields.insert key value).without keys = fields.without keys := by
  induction fields with
  | nil => simp [insert, without, hkey]
  | cons field rest ih =>
    obtain ⟨k, v⟩ := field
    unfold without at ih ⊢
    by_cases hk : key = k
    · subst hk
      simp [insert, hkey]
    · by_cases hlt : key < k
      · simp [insert, hk, hlt, hkey]
      · rw [insert, if_neg hk, if_neg hlt, List.filter_cons, List.filter_cons, ih]

end Fields

/-- The slot, less some keys of its metadata. -/
def Slot.without (keys : List String) (s : Slot) : Slot :=
  { s with resource := { s.resource with metadata := s.resource.metadata.without keys } }

/-- The pool, less some keys of the metadata of its slots. -/
def Pool.without (keys : List String) (p : Pool) : Pool :=
  { p with slots := p.slots.map (Slot.without keys) }

namespace Provisioner

variable {v : Provisioner} {name : PoolName}

/-- The plain provisioner makes the same resource for an index at any instant. -/
theorem Supplies.eq_make_plain {index : Nat} {r : Resource}
    (h : Provisioner.plain.Supplies name index r) (instant : Timestamp) :
    r = Provisioner.plain.make name instant index := by
  obtain ⟨now, start, rfl | rfl⟩ := h <;> rfl

/-- Whatever the instant, and in a new pool or in an expansion, a resource differs by its provenance
only. -/
theorem Supplies.without_provenance {index : Nat} {r : Resource} (h : v.Supplies name index r)
    (instant : Timestamp) :
    (Slot.ofResource r).without MetaKey.provenance =
      (Slot.ofResource (v.make name instant index)).without MetaKey.provenance := by
  have hcreated : MetaKey.createdAt ∈ MetaKey.provenance := by simp [MetaKey.provenance]
  have hexpanded : MetaKey.expanded ∈ MetaKey.provenance := by simp [MetaKey.provenance]
  have hexpandedAt : MetaKey.expandedAt ∈ MetaKey.provenance := by simp [MetaKey.provenance]
  cases v with
  | plain => rw [h.eq_make_plain instant]
  | custom label overlay =>
    obtain ⟨now, start, rfl | rfl⟩ := h <;>
      simp only [Slot.without, Slot.ofResource, makeExpanded, make, Resource.withField,
        Fields.without_insert hcreated, Fields.without_insert hexpanded,
        Fields.without_insert hexpandedAt]

end Provisioner

namespace Pool

variable {v : Provisioner} {name : PoolName} {p : Pool}

/-- An idle pool has as many slots as it aims for, each as the provisioner made it. -/
theorem Sound.slots_of_idle (h : p.Sound v name) (hidle : p.grants = []) :
    p.slots.length = p.target ∧ ∀ (i : Nat) (s : Slot), p.slots[i]? = some s →
      ∃ r, v.Supplies name i r ∧ s = .ofResource r := by
  have htotal := h.total_eq
  have hfree := h.free_eq
  rw [hidle, h.idle_retired hidle] at htotal
  rw [hidle] at hfree
  simp only [List.length_nil, Pool.total] at htotal hfree
  refine ⟨by omega, fun i s hs => ?_⟩
  obtain ⟨hsupplies, hstamp⟩ := h.fits i s hs
  have havailable := h.all_available hidle s (List.mem_of_getElem? hs)
  have hstatus : s.status = .available := by simpa [Slot.isAvailable] using havailable
  rw [hstatus] at hstamp
  have hresource := Resource.unclaimed_of_acquiredAt (r := s.resource) (by simpa using hstamp)
  rw [hresource] at hsupplies
  refine ⟨s.resource, hsupplies, ?_⟩
  rw [Slot.ofResource, ← hstatus]

/-- The slots of an idle pool look like new ones to whoever cannot tell apart what the provisioner
makes at different instants. -/
theorem Sound.map_slots_of_idle {f : Slot → Slot} (h : p.Sound v name) (hidle : p.grants = [])
    (later : Readings) (hf : ∀ i r, v.Supplies name i r →
      f (.ofResource r) = f (.ofResource (v.make name (later.made i) i))) :
    p.slots.map f = (v.stock name later p.target).map f := by
  obtain ⟨hlength, hslots⟩ := h.slots_of_idle hidle
  apply List.ext_getElem
  · rw [List.length_map, List.length_map, hlength, v.length_stock]
  · intro i hi hi'
    rw [List.length_map] at hi
    obtain ⟨r, hsupplies, hr⟩ := hslots i p.slots[i] (List.getElem?_eq_getElem hi)
    simp only [List.getElem_map, hr, Provisioner.stock, List.getElem_range]
    exact hf i r hsupplies

/-- An idle pool that nobody waits for, seen through a map of its slots. -/
theorem Sound.map_eq_of_idle {f : Slot → Slot} (h : p.Sound v name) (hidle : p.grants = [])
    (hqueue : p.queue = []) (later : Readings) (hf : ∀ i r, v.Supplies name i r →
      f (.ofResource r) = f (.ofResource (v.make name (later.made i) i))) :
    ({ p with slots := p.slots.map f } : Pool) =
      { ofSlots (v.stock name later p.target) with
        slots := (v.stock name later p.target).map f } := by
  have hfree := h.free_eq
  rw [hidle, List.length_nil, Nat.sub_zero] at hfree
  simp only [ofSlots, v.availableCount_stock, v.length_stock, h.map_slots_of_idle hidle later hf,
    hidle, hqueue, hfree]

theorem Sound.eq_ofSlots_of_idle (h : p.Sound .plain name) (hidle : p.grants = [])
    (hqueue : p.queue = []) (later : Readings) :
    p = ofSlots (Provisioner.plain.stock name later p.target) := by
  have hsame := h.map_eq_of_idle (f := id) hidle hqueue later
    fun i r hsupplies => congrArg Slot.ofResource (hsupplies.eq_make_plain (later.made i))
  rw [List.map_id, List.map_id] at hsame
  exact hsame

end Pool

namespace Coordinator

variable {c : Coordinator}

/-- Nobody waits for an idle pool. -/
theorem Resting.queue_of_idle (h : c.Resting) (hidle : c.pool.grants = []) :
    c.pool.queue = [] := by
  have hfree := h.pool.free_eq
  have hpos := h.pool.target_pos
  rw [hidle, List.length_nil] at hfree
  exact h.settled.resolve_left (by omega)

/-- Whenever nothing is held after a run, the pool is that of a new coordinator of the target size,
but for the provenance of its slots. -/
theorem create_run_idle {name : PoolName} {options : PoolOptions} {now : Readings} {e : Event}
    (hcreate : create name options now = .ok (c, e)) (os : List Occasion)
    (hidle : (c.run os).1.pool.grants = []) (later : Readings) :
    let pool := (c.run os).1.pool
    let fresh := Pool.ofSlots (options.provisioner.stock name later pool.target)
    (options.provisioner = .plain → pool = fresh) ∧
      pool.without MetaKey.provenance = fresh.without MetaKey.provenance := by
  have hresting := resting_create hcreate
  have hrest := hresting.run os
  have hsettings := hresting.run_sameSettings os
  have hqueue := hrest.queue_of_idle hidle
  obtain ⟨-, hc, -⟩ := create_eq_ok hcreate
  have hname : (c.run os).1.name = name := by rw [hsettings.name_eq, hc]
  have hprovisioner : (c.run os).1.provisioner = options.provisioner := by
    rw [hsettings.provisioner_eq, hc]
  have hpool := hrest.pool
  rw [hname, hprovisioner] at hpool
  refine ⟨fun hplain => ?_, hpool.map_eq_of_idle hidle hqueue later
    fun i r hsupplies => hsupplies.without_provenance (later.made i)⟩
  rw [hplain] at hpool ⊢
  exact hpool.eq_ofSlots_of_idle hidle hqueue later

/-- Two slots are held while the pool grows to four and shrinks to one; both are given back. -/
theorem create_run_idle_shrunk :
    ∃ c e, create ⟨"space", "disk"⟩ ⟨2, none, .plain, 1000⟩ default = .ok (c, e) ∧
      let os := [Message.request "a" 0, .request "b" 0, .resize 4, .resize 1,
        .release (releaseChannel "a") none, .release (releaseChannel "b") none].map fun m =>
          (⟨default, fun _ => true, .message m⟩ : Occasion)
      (c.run os).1.pool.grants = [] ∧
        (c.run os).1.pool = .ofSlots (Provisioner.plain.stock ⟨"space", "disk"⟩ default 1) := by
  have hcreate : create ⟨"space", "disk"⟩ ⟨2, none, .plain, 1000⟩ default = .ok (_, _) := rfl
  have hidle := create_run_idle hcreate
    ([Message.request "a" 0, .request "b" 0, .resize 4, .resize 1,
      .release (releaseChannel "a") none, .release (releaseChannel "b") none].map fun m =>
        ⟨default, fun _ => true, .message m⟩) (by decide) default
  exact ⟨_, _, hcreate, by decide, hidle.1 rfl⟩

end Coordinator

end LeasePool
