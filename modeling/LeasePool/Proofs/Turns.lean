import LeasePool.Station

/-!
The turns of a station. It takes the first lease whose time is up, and a message only if there is
none; a station that was told to halt takes nothing any more. What is taken leaves its queue, and
nothing else does.
-/
namespace LeasePool

namespace Coordinator.Input

def message? : Input → Option Message
  | .message m => some m
  | .expiry _ => none

def expiry? : Input → Option Expiry
  | .message _ => none
  | .expiry e => some e

end Coordinator.Input

namespace Station

open Coordinator (Input)

variable {s : Station} {clock : Readings} {reach faulty : String → Bool} {held : Bool} {turn : Turn}
  {input : Input} {query : Option Nat}

/-- The next input and the query that belongs to it. -/
def next? (s : Station) : Option (Input × Option Nat) :=
  match s.expired, s.inbox with
  | e :: _, _ => some (.expiry e, none)
  | [], e :: _ => some (.message e.message, e.query)
  | [], [] => none

/-- The station without its next input. -/
def rest (s : Station) : Station :=
  match s.expired, s.inbox with
  | _ :: rest, _ => { s with expired := rest }
  | [], _ :: rest => { s with inbox := rest }
  | [], [] => s

/-- What a station handles in its next turn, if it handles something then. -/
def input? (s : Station) : Option Input := if s.stopping then none else s.next?.map Prod.fst

def messages (s : Station) : List Message := s.inbox.map Envelope.message

theorem expired_eq_of_next? (hnext : s.next? = some (input, query)) :
    s.expired = input.expiry?.toList ++ s.rest.expired := by
  obtain ⟨c, capacity, inbox, expired, stopping, phase⟩ := s
  rcases expired with _ | ⟨e, expired⟩
  · rcases inbox with _ | ⟨e, inbox⟩
    · cases hnext
    · cases hnext
      rfl
  · cases hnext
    rfl

theorem messages_eq_of_next? (hnext : s.next? = some (input, query)) :
    s.messages = input.message?.toList ++ s.rest.messages := by
  obtain ⟨c, capacity, inbox, expired, stopping, phase⟩ := s
  rcases expired with _ | ⟨e, expired⟩
  · rcases inbox with _ | ⟨e, inbox⟩
    · cases hnext
    · cases hnext
      rfl
  · cases hnext
    rfl

/-- A station with nothing to handle has no messages. -/
theorem messages_of_next?_eq_none (hnone : s.next? = none) : s.messages = [] := by
  obtain ⟨c, capacity, inbox, expired, stopping, phase⟩ := s
  rcases expired with _ | ⟨e, expired⟩
  · rcases inbox with _ | ⟨e, inbox⟩
    · rfl
    · cases hnone
  · cases hnone

@[simp] theorem rest_coordinator (s : Station) : s.rest.coordinator = s.coordinator := by
  unfold rest
  split <;> rfl

@[simp] theorem rest_phase (s : Station) : s.rest.phase = s.phase := by
  unfold rest
  split <;> rfl

@[simp] theorem rest_stopping (s : Station) : s.rest.stopping = s.stopping := by
  unfold rest
  split <;> rfl

@[simp] theorem rest_capacity (s : Station) : s.rest.capacity = s.capacity := by
  unfold rest
  split <;> rfl

/-- A turn of a station that works: it halts or handles its next input. -/
theorem take?_eq (s : Station) (clock : Readings) (reach faulty : String → Bool) (held : Bool) :
    s.take? clock reach faulty held =
      if s.isClosed then none
      else if s.stopping then some s.halt
      else match s.next? with
        | some (input, query) => some (s.rest.handle clock reach faulty input query)
        | none => if held then none else some s.halt := by
  obtain ⟨c, capacity, inbox, expired, stopping, phase⟩ := s
  unfold take? next? rest
  rcases expired with _ | ⟨e, expired⟩
  · rcases inbox with _ | ⟨e, inbox⟩ <;> rfl
  · rfl

/-- What a station does in a turn. -/
inductive Acts (s : Station) (clock : Readings) (reach faulty : String → Bool) : Turn → Prop where
  | halts : Acts s clock reach faulty s.halt
  | handles {input : Input} {query : Option Nat} (hgoes : s.stopping = false)
      (hnext : s.next? = some (input, query)) :
      Acts s clock reach faulty (s.rest.handle clock reach faulty input query)

theorem acts_of_take? (htake : s.take? clock reach faulty held = some turn) :
    s.isClosed = false ∧ s.Acts clock reach faulty turn := by
  rw [take?_eq] at htake
  cases hclosed : s.isClosed with
  | true => simp [hclosed] at htake
  | false =>
    refine ⟨rfl, ?_⟩
    simp only [hclosed, Bool.false_eq_true, if_false] at htake
    split at htake
    case isTrue =>
      rw [← Option.some.inj htake]
      exact .halts
    case isFalse hgoes =>
      split at htake
      case h_1 input query hnext =>
        rw [← Option.some.inj htake]
        exact .handles (by simpa using hgoes) hnext
      case h_2 =>
        split at htake
        · cases htake
        · rw [← Option.some.inj htake]
          exact .halts

/-- All that an input which asks for too many slots does is to be taken up. -/
theorem take_one_of_overflows {c : Coordinator} (hoverflow : input.overflows = true) :
    (c.step clock reach input).2.take 1 = [.note .handling] := by
  cases input with
  | message m =>
    cases m with
    | resize size => rfl
    | _ => cases hoverflow
  | expiry e => cases hoverflow

/-- Handling an input takes a step of the coordinator, or crashes in the middle of its effects. -/
theorem handle_cases (s : Station) (clock : Readings) (reach faulty : String → Bool) (input : Input)
    (query : Option Nat) :
    s.handle clock reach faulty input query =
        ⟨{ s with coordinator := (s.coordinator.step clock reach input).1 },
          (s.coordinator.step clock reach input).2, query⟩ ∨
      ∃ n, s.handle clock reach faulty input query =
        ⟨s.leave .crashed, (s.coordinator.step clock reach input).2.take n, none⟩ := by
  unfold handle
  dsimp only
  split
  case isTrue hoverflow =>
    right
    exact ⟨1, by rw [take_one_of_overflows hoverflow]⟩
  case isFalse =>
    cases (s.coordinator.step clock reach input).2.findIdx? (isFatal faulty) with
    | none => exact Or.inl rfl
    | some n => exact Or.inr ⟨n, rfl⟩

/-- Nothing goes wrong if no requester is faulty and the slots can be held. -/
theorem handle_of_reliable (hfaulty : ∀ requester, faulty requester = false)
    (hfits : input.overflows = false) :
    s.handle clock reach faulty input query =
      ⟨{ s with coordinator := (s.coordinator.step clock reach input).1 },
        (s.coordinator.step clock reach input).2, query⟩ := by
  have hnone : (s.coordinator.step clock reach input).2.findIdx? (isFatal faulty) = none := by
    refine List.findIdx?_eq_none_iff.mpr fun effect _ => ?_
    cases effect with
    | delivery requester r delivered => exact hfaulty requester
    | _ => rfl
  unfold handle
  rw [if_neg (by simp [hfits])]
  dsimp only
  rw [hnone]

/-! ### Messages and timers -/

theorem post_eq_accepted {e : Envelope} {s' : Station} (hpost : s.post e = .accepted s') :
    s.isClosed = false ∧ s' = { s with inbox := s.inbox ++ [e] } := by
  unfold post at hpost
  cases hopen : s.isClosed with
  | true => simp [hopen] at hpost
  | false =>
    cases hfull : s.isFull with
    | true => simp [hopen, hfull] at hpost
    | false =>
      simp only [hopen, hfull, Bool.false_eq_true, if_false, Posting.accepted.injEq] at hpost
      exact ⟨rfl, hpost.symm⟩

theorem fire?_eq_some {ticks lease : Nat} {s' : Station} (hfire : s.fire? ticks lease = some s') :
    s.isClosed = false ∧ ∃ w ∈ s.coordinator.watchers, w.expiry.lease = lease ∧
      w.state = .armed ∧ w.deadline ≤ ticks ∧
      s' = { s with
        coordinator := s.coordinator.fireWatcher lease
        expired := s.expired ++ [w.expiry] } := by
  obtain ⟨w, hw, rfl⟩ := Option.map_eq_some_iff.mp hfire
  obtain ⟨htimer, hdue⟩ := Option.filter_eq_some_iff.mp hw
  have hlease : w.expiry.lease = lease := by simpa using List.find?_some htimer
  have hmem := List.mem_of_find?_eq_some htimer
  unfold armed at hmem
  split at hmem
  case isTrue => cases hmem
  case isFalse hopen =>
    obtain ⟨hmem, harmed⟩ := List.mem_filter.mp hmem
    exact ⟨by simpa using hopen, w, hmem, hlease, by simpa using harmed, by simpa using hdue, rfl⟩

end Station

end LeasePool
