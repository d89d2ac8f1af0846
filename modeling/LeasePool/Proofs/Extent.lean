import LeasePool.Proofs.Idle
import LeasePool.Proofs.Serving
import LeasePool.Proofs.Sizing
import Mathlib.Order.Bounds.Basic

/-!
How long the array of slots is. It is cut when the last slot is given back, and grows after that
only as far as the largest size that was asked for. The moments at which this is told are those
between steps, and those within a step before it serves the waiting list.
-/
namespace LeasePool

namespace Pool

variable {v : Provisioner} {name : PoolName} {p q : Pool}

/-! ### One change -/

/-- While something is held, the array grows just as far as it has to. -/
def Stretches (p q : Pool) : Prop := q.grants ≠ [] → q.total = max p.total q.target

theorem Accounted.target_le_total (h : p.Accounted v name) : p.target ≤ p.total := by
  have htotal := h.total_eq
  have hfree := h.free_eq
  omega

theorem Accounted.stretches_of_total_eq (h : q.Accounted v name) (htotal : q.total = p.total) :
    Stretches p q := by
  intro _
  rw [← htotal, max_eq_left h.target_le_total]

theorem length_vacate (p : Pool) (index : Nat) (requester : String) :
    (p.vacate index requester).slots.length = p.slots.length := List.length_modify _ _ _

/-- The array is cut only when nothing is held any more. -/
theorem total_tidy_of_busy (hbusy : p.tidy.grants ≠ []) : p.tidy.total = p.total := by
  rw [tidy_grants] at hbusy
  rw [tidy, if_neg (by simpa using hbusy)]

theorem Sound.stretches_resize (h : p.Sound v name) (now : Readings) (size : Nat) :
    Stretches p (p.resize name v.strategy now size).1 := by
  by_cases hle : p.inService ≤ size
  · intro _
    rw [h.resize_grow now hle]
    have hretired : p.retired ≤ p.total := List.countP_le_length
    have hlength : (grown v name now p.slots (size - p.inService)).length =
        p.total + (size - p.inService - p.retired) := by
      rw [grown_eq, List.length_append, length_changeAt, Provisioner.length_added]
      rfl
    show (grown v name now p.slots (size - p.inService)).length = max p.total size
    rw [hlength]
    unfold inService at hle ⊢
    omega
  · rw [h.resize_shrink now (Nat.lt_of_not_le hle)]
    intro hbusy
    have hlength : (v.shrink p.slots (p.inService - size) true).1.length = p.slots.length :=
      (v.forall₂_kept_shrink p.slots _).length_eq.symm
    show (if p.grants = [] then p.slots.take size
      else (v.shrink p.slots (p.inService - size) true).1).length = max p.total size
    have hlt : size < p.inService := Nat.lt_of_not_le hle
    have hservice : p.inService ≤ p.total := Nat.sub_le _ _
    rw [if_neg hbusy, hlength]
    exact (max_eq_left (hlt.le.trans hservice)).symm

/-! ### A history -/

/-- The number is the largest target since the last moment of the history at which nothing was
held. -/
def Tops (history : List Pool) (n : Nat) : Prop :=
  ∃ before idle busy, history = before ++ idle :: busy ∧ idle.grants = [] ∧
    (∀ p ∈ busy, p.grants ≠ []) ∧ IsGreatest {m | ∃ p ∈ idle :: busy, p.target = m} n

theorem tops_of_idle (history : List Pool) (hidle : q.grants = []) (htotal : q.total = q.target) :
    Tops (history ++ [q]) q.total := by
  refine ⟨history, q, [], rfl, hidle, by simp, ?_⟩
  rw [htotal]
  simp

theorem targets_concat (pools : List Pool) (q : Pool) :
    {m | ∃ p ∈ pools ++ [q], p.target = m} = insert q.target {m | ∃ p ∈ pools, p.target = m} := by
  ext m
  simp only [Set.mem_ofPred_eq, Set.mem_insert_iff, List.mem_append, List.mem_singleton]
  constructor
  · rintro ⟨p, hold | rfl, rfl⟩
    · exact Or.inr ⟨p, hold, rfl⟩
    · exact Or.inl rfl
  · rintro (rfl | ⟨p, hold, rfl⟩)
    · exact ⟨q, Or.inr rfl, rfl⟩
    · exact ⟨p, Or.inl hold, rfl⟩

/-- A history goes on. -/
theorem Tops.concat {history : List Pool} (h : Tops history p.total)
    (hstretch : Stretches p q) (hidle : q.grants = [] → q.total = q.target) :
    Tops (history ++ [q]) q.total := by
  by_cases hgrants : q.grants = []
  · exact tops_of_idle history hgrants (hidle hgrants)
  · obtain ⟨before, idle, busy, rfl, hstart, hbusy, htop⟩ := h
    refine ⟨before, idle, busy ++ [q], by simp, hstart, ?_, ?_⟩
    · intro p' hp'
      rcases List.mem_append.mp hp' with hold | hlast
      · exact hbusy p' hold
      · rw [List.mem_singleton.mp hlast]
        exact hgrants
    · have hset : {m | ∃ p' ∈ idle :: (busy ++ [q]), p'.target = m} =
          insert q.target {m | ∃ p' ∈ idle :: busy, p'.target = m} :=
        targets_concat (idle :: busy) q
      rw [hset, hstretch hgrants, max_comm]
      exact htop.insert q.target

end Pool

namespace Coordinator

variable {c c' : Coordinator} {clock : Readings} {reach : String → Bool}

/-! ### One step -/

theorem Drained.total_eq {effects : List Effect} (hdrain : Drained clock reach c effects c')
    (h : c.Sound) : c'.pool.total = c.pool.total := by
  obtain ⟨requests, -, hserved⟩ := hdrain.served h
  rw [hserved.outcome]
  exact length_handOut _ _ _

theorem Changed.stretches {input : Input} {effects : List Effect}
    (hchange : Changed clock reach c input effects c') (h : c.Sound) :
    c.pool.Stretches c'.pool := by
  have hsound := (hchange.sound h).pool
  cases hchange with
  | released hlease honly hnotes | expired hlease hnotes =>
    intro hbusy
    refine hsound.stretches_of_total_eq ?_ hbusy
    exact (Pool.total_tidy_of_busy hbusy).trans (Pool.length_vacate _ _ _)
  | @resized size slots outcome hsize hresize hrefit =>
    have hstretch := h.pool.stretches_resize clock size
    rwa [hresize] at hstretch
  | _ => exact hsound.stretches_of_total_eq rfl

/-- The pool when the handling of an input turns to the waiting list, if it does so. -/
def turning (c : Coordinator) (clock : Readings) (input : Input) : List Pool :=
  ((c.unserved? clock input).map Coordinator.pool).toList

theorem Stepped.tops {input : Input} {effects : List Effect}
    (hstep : Stepped clock reach c input effects c') (h : c.Sound) {history : List Pool}
    (htops : Pool.Tops history c.pool.total) :
    Pool.Tops (history ++ c.turning clock input ++ [c'.pool]) c'.pool.total := by
  have hsound := hstep.sound h
  cases hstep with
  | @intro first more c₁ c' hchange hdrain =>
    have hchanged := hchange.sound h
    have htotal := hdrain.total_eq hchanged
    -- a step that turns to the waiting list has a moment of its own before it does so
    obtain heq | ⟨hnone, hslots, -, -⟩ := hchange.unserved? h
    · have hturning : c.turning clock input = [c₁.pool] := by rw [turning, heq]; rfl
      have hturned := htops.concat (hchange.stretches h)
        fun hidle => (hchanged.pool.slots_of_idle hidle).1
      rw [hturning]
      exact hturned.concat (hsound.pool.stretches_of_total_eq htotal)
        fun hidle => (hsound.pool.slots_of_idle hidle).1
    · have hturning : c.turning clock input = [] := by rw [turning, hnone]; rfl
      have hsame : c'.pool.total = c.pool.total := htotal.trans (congrArg List.length hslots)
      rw [hturning, List.append_nil]
      exact htops.concat (hsound.pool.stretches_of_total_eq hsame)
        fun hidle => (hsound.pool.slots_of_idle hidle).1

/-! ### A run -/

/-- The pool between the steps of a run, and within a step when it turns to the waiting list. -/
def moments (c : Coordinator) : List Occasion → List Pool
  | [] => [c.pool]
  | o :: os =>
    c.pool :: c.turning o.clock o.input ++ moments (c.step o.clock o.reach o.input).1 os

theorem moments_concat (c : Coordinator) (os : List Occasion) (o : Occasion) :
    c.moments (os ++ [o]) =
      c.moments os ++ (c.run os).1.turning o.clock o.input ++ [(c.run (os ++ [o])).1.pool] := by
  induction os generalizing c with
  | nil => rfl
  | cons o' os ih =>
    rw [List.cons_append, moments, moments, ih, run_cons, run_cons, ← List.append_assoc,
      ← List.append_assoc]

/-- The largest target since nothing was held. -/
theorem Resting.run_tops (h : c.Resting) (hidle : c.pool.grants = []) (os : List Occasion) :
    Pool.Tops (c.moments os) (c.run os).1.pool.total := by
  induction os using List.reverseRecOn with
  | nil => exact Pool.tops_of_idle [] hidle (h.pool.slots_of_idle hidle).1
  | append_singleton os o ih =>
    rw [moments_concat, run_concat]
    exact ((h.run os).stepped o).tops (h.run os).toSound ih

/-- After every run the array is as long as the largest size that the pool aimed for since the last
moment at which nothing was held, and as long as the size that it aims for if nothing is held. -/
theorem create_run_extent {name : PoolName} {options : PoolOptions} {now : Readings} {e : Event}
    (hcreate : create name options now = .ok (c, e)) (os : List Occasion) :
    let pool := (c.run os).1.pool
    (∃ before idle busy, c.moments os = before ++ idle :: busy ∧ idle.grants = [] ∧
      (∀ p ∈ busy, p.grants ≠ []) ∧
      IsGreatest {n | ∃ p ∈ idle :: busy, p.target = n} pool.total) ∧
    (pool.grants = [] → pool.total = pool.target) := by
  have hresting := resting_create hcreate
  have hidle : c.pool.grants = [] := by
    obtain ⟨-, rfl, -⟩ := create_eq_ok hcreate
    rfl
  exact ⟨hresting.run_tops hidle os, fun hdone => ((hresting.run os).pool.slots_of_idle hdone).1⟩

/-- A pool of two slots, both held, is to shrink to one, and somebody waits. The array is cut within
the step that gives back the last slot, although something is held before and after it. -/
theorem create_run_extent_handed_over :
    ∃ c e, create ⟨"space", "disk"⟩ ⟨2, none, .plain, 1000⟩ default = .ok (c, e) ∧
      let os := [Message.request "a" 0, .request "b" 0, .resize 1, .request "c" 0,
        .release (releaseChannel "b") none].map fun m =>
          (⟨default, fun _ => true, .message m⟩ : Occasion)
      let last : Occasion :=
        ⟨default, fun _ => true, .message (.release (releaseChannel "a") none)⟩
      (c.run os).1.pool.grants.keys = ["a"] ∧ (c.run os).1.pool.total = 2 ∧
        (c.run (os ++ [last])).1.pool.grants.keys = ["c"] ∧
        ∃ before idle busy, c.moments (os ++ [last]) = before ++ idle :: busy ∧ idle.grants = [] ∧
          (∀ p ∈ busy, p.grants ≠ []) ∧ IsGreatest {n | ∃ p ∈ idle :: busy, p.target = n} 1 := by
  let c : Coordinator := ⟨⟨"space", "disk"⟩, .plain, none,
    .ofSlots (Provisioner.plain.stock ⟨"space", "disk"⟩ default 2), [], 0, []⟩
  let os := [Message.request "a" 0, .request "b" 0, .resize 1, .request "c" 0,
    .release (releaseChannel "b") none].map fun m =>
      (⟨default, fun _ => true, .message m⟩ : Occasion)
  let last : Occasion :=
    ⟨default, fun _ => true, .message (.release (releaseChannel "a") none)⟩
  have hcreate : create ⟨"space", "disk"⟩ ⟨2, none, .plain, 1000⟩ default =
      .ok (c, .started 2 "default") := rfl
  have htotal : (c.run (os ++ [last])).1.pool.total = 1 := by decide +kernel
  have hextent := (create_run_extent hcreate (os ++ [last])).1
  rw [htotal] at hextent
  exact ⟨c, _, hcreate, by decide +kernel, by decide +kernel, by decide +kernel, hextent⟩

end Coordinator

end LeasePool
