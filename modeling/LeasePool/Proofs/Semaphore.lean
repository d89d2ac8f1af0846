import LeasePool.Coordinator
import Mathlib.Data.Finset.Card
import Mathlib.Logic.Function.Basic

/-!
A counting semaphore that can be resized and serves its waiting list in order of arrival. This is
what a pool is to its requesters: it knows no slots, only how many requesters may hold a permit at a
time, who holds one, and who waits. Permits are numbered by the attempts to grant one, so that a
late return cannot be taken for the return of a later permit.
-/
namespace LeasePool

structure Semaphore where
  capacity : Nat
  holders : Finset String
  queue : List String
  /-- The number of the permit that a requester was given last. -/
  permit : String → Nat
  /-- How many times a permit was offered. -/
  offers : Nat

namespace Semaphore

/-- An attempt to reach a requester, and whether it went through. -/
inductive Attempt where
  | grant (requester : String) (permit : Nat) (delivered : Bool)
  | cancellation (requester : String) (delivered : Bool)
deriving DecidableEq, Repr

/-- What is asked of a semaphore. A return may be meant for one permit only. -/
inductive Move where
  | request (requester : String)
  | giveBack (requester : String) (only : Option Nat)
  | resize (capacity : Nat)
  | withdraw (requester : String)
  | nothing
deriving DecidableEq, Repr

/-- A semaphore that nobody holds or awaits. -/
def new (capacity : Nat) : Semaphore := ⟨capacity, ∅, [], fun _ => 0, 0⟩

def HasRoom (s : Semaphore) : Prop := s.holders.card < s.capacity

instance (s : Semaphore) : Decidable s.HasRoom := Nat.decLt _ _

def withQueue (s : Semaphore) (queue : List String) : Semaphore := { s with queue }

/-- Offers a permit to a requester, who becomes a holder if the offer arrives. -/
def offer (s : Semaphore) (reach : String → Bool) (requester : String) : Semaphore × Attempt :=
  (if reach requester then
    { s with
      holders := insert requester s.holders
      permit := Function.update s.permit requester s.offers
      offers := s.offers + 1 }
  else { s with offers := s.offers + 1 },
   .grant requester s.offers (reach requester))

/-- Serves the requesters of the waiting list in order while there is room. -/
def serve (reach : String → Bool) : List String → Semaphore → Semaphore × List Attempt
  | [], s => (s, [])
  | requester :: rest, s =>
    if s.HasRoom then
      let (s', attempt) := (s.withQueue rest).offer reach requester
      let (s'', more) := serve reach rest s'
      (s'', attempt :: more)
    else (s, [])

def drain (s : Semaphore) (reach : String → Bool) : Semaphore × List Attempt :=
  serve reach s.queue s

def step (s : Semaphore) (reach : String → Bool) : Move → Semaphore × List Attempt
  | .request requester =>
    if requester ∈ s.holders ∨ requester ∈ s.queue then (s, [])
    else if s.queue = [] ∧ s.HasRoom then
      let (s', attempt) := s.offer reach requester
      (s', [attempt])
    else (s.withQueue (s.queue ++ [requester]), [])
  | .giveBack requester only =>
    if requester ∈ s.holders ∧ (only = none ∨ only = some (s.permit requester)) then
      ({ s with holders := s.holders.erase requester } : Semaphore).drain reach
    else (s, [])
  | .resize capacity =>
    if capacity = 0 then (s, []) else ({ s with capacity } : Semaphore).drain reach
  | .withdraw requester =>
    if requester ∈ s.queue then
      (s.withQueue (s.queue.erase requester), [.cancellation requester (reach requester)])
    else (s, [])
  | .nothing => (s, [])

/-- The semaphore after a run of moves, and all attempts on the way. -/
def run (s : Semaphore) : List ((String → Bool) × Move) → Semaphore × List Attempt
  | [] => (s, [])
  | (reach, move) :: rest =>
    let (s', attempts) := s.step reach move
    let (s'', more) := run s' rest
    (s'', attempts ++ more)

/-! ### Serving -/

variable {s : Semaphore} {reach : String → Bool}

theorem drain_of_not_hasRoom (hfull : ¬ s.HasRoom) : s.drain reach = (s, []) := by
  unfold drain
  cases s.queue with
  | nil => rfl
  | cons requester rest => rw [serve, if_neg hfull]

theorem drain_of_queue_eq_nil (hqueue : s.queue = []) : s.drain reach = (s, []) := by
  rw [drain, hqueue]
  rfl

theorem offer_queue (s : Semaphore) (requester : String) :
    (s.offer reach requester).1.queue = s.queue := by
  unfold offer
  split <;> rfl

theorem drain_of_queue_eq_cons {requester : String} {rest : List String}
    (hqueue : s.queue = requester :: rest) (hroom : s.HasRoom) :
    s.drain reach =
      ((((s.withQueue rest).offer reach requester).1.drain reach).1,
        ((s.withQueue rest).offer reach requester).2 ::
          (((s.withQueue rest).offer reach requester).1.drain reach).2) := by
  have hrest : ((s.withQueue rest).offer reach requester).1.queue = rest :=
    (s.withQueue rest).offer_queue requester
  rw [drain, hqueue, serve, if_pos hroom]
  simp only [drain, hrest]

/-- A new request passes through the waiting list, if only for no time. -/
theorem step_request {requester : String} (hholders : requester ∉ s.holders)
    (hwaits : requester ∉ s.queue) (hsettled : ¬ s.HasRoom ∨ s.queue = []) :
    s.step reach (.request requester) =
      (s.withQueue (s.queue ++ [requester])).drain reach := by
  rw [step, if_neg (not_or.mpr ⟨hholders, hwaits⟩)]
  by_cases hroom : s.HasRoom
  · have hqueue := hsettled.resolve_left (not_not.mpr hroom)
    have hself : (s.withQueue [requester]).withQueue [] = s := by
      rw [← hqueue]
      rfl
    have hserved : (s.offer reach requester).1.queue = [] := (s.offer_queue requester).trans hqueue
    have hroom' : (s.withQueue [requester]).HasRoom := hroom
    rw [if_pos ⟨hqueue, hroom⟩, hqueue, List.nil_append, drain_of_queue_eq_cons rfl hroom', hself,
      drain_of_queue_eq_nil hserved]
  · have hfull : ¬ (s.withQueue (s.queue ++ [requester])).HasRoom := hroom
    rw [if_neg fun h => hroom h.2, drain_of_not_hasRoom hfull]

end Semaphore

end LeasePool
