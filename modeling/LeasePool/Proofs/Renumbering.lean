import LeasePool.Proofs.Lifetimes
import Mathlib.Order.Monotone.Basic

/-!
Two runs that make the same grants under different lease ids. The ids of corresponding grants are
listed in order for either run, and two ids name the same grant if they stand at the same place. An
input that names a lease is matched by one that names the same grant, and the ids of the one run are
renumbered as those of the other.
-/
namespace LeasePool

/-- The response with its lease id renumbered. -/
def Response.renumber (f : Nat → Nat) : Response → Response
  | .acquired channel lease r => .acquired channel (f lease) r
  | .cancelled => .cancelled

namespace Coordinator

variable {ids ids' : List Nat} {n n' : Nat}

/-- Two lease ids that name the same one of the grants whose ids are listed for either run, or
both none. -/
def SameGrant (ids ids' : List Nat) (k k' : Nat) : Prop :=
  ∀ j : Nat, ids[j]? = some k ↔ ids'[j]? = some k'

/-- Inputs of two runs that differ in lease ids at most, and name the same grant. -/
inductive Input.Matches (ids ids' : List Nat) : Input → Input → Prop where
  | same {input : Input} (hnone : ∀ k, ¬ Names k input) : Matches ids ids' input input
  | release (channel : String) {k k' : Nat} (hsame : SameGrant ids ids' k k') :
      Matches ids ids' (.message (.release channel (some k)))
        (.message (.release channel (some k')))
  | expiry (channel : String) {k k' : Nat} (hsame : SameGrant ids ids' k k') :
      Matches ids ids' (.expiry ⟨channel, k⟩) (.expiry ⟨channel, k'⟩)

/-! ### Ids of two runs -/

/-- The ids of corresponding grants in two runs that have used up so many ids. The second run makes
no other grants, so that its ids are the places in the list of the first. -/
structure Numbered (ids ids' : List Nat) (n n' : Nat) : Prop where
  range_eq : ids' = List.range n'
  length_eq : ids.length = n'
  increasing : ids.Pairwise (· < ·)
  lt : ∀ k ∈ ids, k < n

namespace Numbered

theorem skip (h : Numbered ids ids' n n') : Numbered ids ids' (n + 1) n' :=
  ⟨h.range_eq, h.length_eq, h.increasing, fun k hk => Nat.lt_succ_of_lt (h.lt k hk)⟩

theorem snoc (h : Numbered ids ids' n n') :
    Numbered (ids ++ [n]) (ids' ++ [n']) (n + 1) (n' + 1) := by
  refine ⟨?_, ?_, ?_, ?_⟩
  · rw [h.range_eq, List.range_succ]
  · rw [List.length_append, h.length_eq, List.length_singleton]
  · exact List.pairwise_append.mpr ⟨h.increasing, List.pairwise_singleton _ _,
      fun k hk m hm => (List.mem_singleton.mp hm).symm ▸ h.lt k hk⟩
  · intro k hk
    rcases List.mem_append.mp hk with hold | hnew
    · exact Nat.lt_succ_of_lt (h.lt k hold)
    · rw [List.mem_singleton.mp hnew]
      exact Nat.lt_succ_self n

theorem getElem?_eq_some_iff (h : Numbered ids ids' n n') {j k : Nat} :
    ids'[j]? = some k ↔ j = k ∧ k < n' := by
  rw [h.range_eq, List.getElem?_eq_some_iff]
  simp only [List.getElem_range, List.length_range, exists_prop]
  constructor
  · rintro ⟨hlt, rfl⟩
    exact ⟨rfl, hlt⟩
  · rintro ⟨rfl, hlt⟩
    exact ⟨hlt, rfl⟩

theorem lt_of_getElem? (h : Numbered ids ids' n n') {j k : Nat} (hk : ids[j]? = some k) :
    j < n' := by
  rw [← h.length_eq]
  exact (List.getElem?_eq_some_iff.mp hk).1

/-- The place of an id in the first run is the id of the same grant in the second. -/
theorem eq_iff_of_sameGrant (h : Numbered ids ids' n n') {k k' m m' : Nat}
    (hsame : SameGrant ids ids' k k') (hm : ids[m']? = some m) : k = m ↔ k' = m' := by
  have hplace := hsame m'
  rw [hm, h.getElem?_eq_some_iff, Option.some.injEq] at hplace
  constructor
  · exact fun heq => (hplace.mp heq.symm).1.symm
  · exact fun heq => (hplace.mpr ⟨heq.symm, heq ▸ h.lt_of_getElem? hm⟩).symm

/-- For every lease id of the first run there is one of the second that names the same grant. -/
theorem exists_sameGrant (h : Numbered ids ids' n n') (k : Nat) :
    ∃ k', SameGrant ids ids' k k' := by
  by_cases hk : k ∈ ids
  · obtain ⟨k', hk'⟩ := List.mem_iff_getElem?.mp hk
    have hlt := h.lt_of_getElem? hk'
    refine ⟨k', fun j => ?_⟩
    rw [h.getElem?_eq_some_iff]
    constructor
    · intro hj
      have hnodup : ids.Nodup := h.increasing.imp Nat.ne_of_lt
      have hbound := (List.getElem?_eq_some_iff.mp hj).1
      exact ⟨(List.getElem?_inj hbound hnodup).mp (hj.trans hk'.symm), hlt⟩
    · rintro ⟨rfl, -⟩
      exact hk'
  · refine ⟨n', fun j => ?_⟩
    rw [h.getElem?_eq_some_iff]
    constructor
    · exact fun hj => absurd (List.mem_of_getElem? hj) hk
    · exact fun hj => absurd hj.2 (Nat.lt_irrefl n')

end Numbered

/-- Renumbers the ids of the second run as those of the first, and goes on beyond them. -/
def rename (ids : List Nat) (n j : Nat) : Nat := ids[j]?.getD (n + j)

theorem rename_of_getElem? {j k : Nat} (hk : ids[j]? = some k) : rename ids n j = k := by
  rw [rename, hk, Option.getD_some]

namespace Numbered

theorem strictMono_rename (h : Numbered ids ids' n n') : StrictMono (rename ids n) := by
  intro i j hij
  unfold rename
  cases hi : ids[i]? with
  | none =>
    have hlength := List.getElem?_eq_none_iff.mp hi
    have hj : ids[j]? = none := List.getElem?_eq_none (by omega)
    rw [hj, Option.getD_none, Option.getD_none]
    omega
  | some k =>
    have hk := h.lt k (List.mem_of_getElem? hi)
    cases hj : ids[j]? with
    | none =>
      rw [Option.getD_some, Option.getD_none]
      omega
    | some m =>
      obtain ⟨hi', rfl⟩ := List.getElem?_eq_some_iff.mp hi
      obtain ⟨hj', rfl⟩ := List.getElem?_eq_some_iff.mp hj
      exact List.pairwise_iff_getElem.mp h.increasing i j hi' hj' hij

theorem map_rename (h : Numbered ids ids' n n') : ids'.map (rename ids n) = ids := by
  rw [h.range_eq]
  apply List.ext_getElem
  · rw [List.length_map, List.length_range, h.length_eq]
  · intro j hj hj'
    rw [List.getElem_map, List.getElem_range, rename_of_getElem? (List.getElem?_eq_getElem hj')]

end Numbered

/-! ### Matching inputs -/

/-- An input that names no lease ends whatever lease its channel has. -/
theorem Ends.of_not_names {channel : String} {k : Nat} {input : Input} {reason : ReleaseReason}
    (h : Ends channel k input reason) (hnone : ∀ j, ¬ Names j input) (k' : Nat) :
    Ends channel k' input reason := by
  cases h with
  | release only honly =>
    cases only with
    | none => exact .release none fun _ hj => nomatch hj
    | some j => exact absurd (.release channel) (hnone j)
  | expiry => exact absurd (.expiry channel) (hnone k)

namespace Input.Matches

variable {input input' : Input}

/-- Inputs that name the same grant end the lease of that grant. -/
theorem ends_iff (h : input.Matches ids ids' input') (hnumbered : Numbered ids ids' n n')
    {k k' : Nat} (hk : ids[k']? = some k) {channel : String} {reason : ReleaseReason} :
    Ends channel k input reason ↔ Ends channel k' input' reason := by
  cases h with
  | same hnone =>
    constructor
    · exact fun hends => hends.of_not_names hnone k'
    · exact fun hends => hends.of_not_names hnone k
  | @release other m m' hsame =>
    have hiff := hnumbered.eq_iff_of_sameGrant hsame hk
    constructor
    · intro hends
      cases hends with
      | release only honly =>
        exact .release _ fun j hj => Option.some.inj hj ▸ hiff.mp (honly m rfl)
    · intro hends
      cases hends with
      | release only honly =>
        exact .release _ fun j hj => Option.some.inj hj ▸ hiff.mpr (honly m' rfl)
  | @expiry other m m' hsame =>
    have hiff := hnumbered.eq_iff_of_sameGrant hsame hk
    constructor
    · intro hends
      cases hends with
      | expiry => exact hiff.mp rfl ▸ .expiry
    · intro hends
      cases hends with
      | expiry => exact hiff.mpr rfl ▸ .expiry

theorem exists_release {channel : String} {only : Option Nat}
    (h : Input.Matches ids ids' (.message (.release channel only)) input') :
    ∃ only', input' = .message (.release channel only') := by
  cases h with
  | same hnone => exact ⟨only, rfl⟩
  | release channel hsame => exact ⟨_, rfl⟩

theorem exists_expiry {e : Expiry} (h : Input.Matches ids ids' (.expiry e) input') :
    ∃ k', input' = .expiry ⟨e.channel, k'⟩ := by
  cases h with
  | same hnone => exact ⟨e.lease, rfl⟩
  | expiry channel hsame => exact ⟨_, rfl⟩

end Input.Matches

/-- For every input of the first run there is a matching one for the second. -/
theorem Numbered.exists_matches (h : Numbered ids ids' n n') (input : Input) :
    ∃ input', input.Matches ids ids' input' := by
  match input with
  | .message (.release channel (some k)) =>
    obtain ⟨k', hsame⟩ := h.exists_sameGrant k
    exact ⟨_, .release channel hsame⟩
  | .expiry ⟨channel, k⟩ =>
    obtain ⟨k', hsame⟩ := h.exists_sameGrant k
    exact ⟨_, .expiry channel hsame⟩
  | .message (.release channel none) | .message (.request _ _) | .message (.resize _)
  | .message (.cancel _) | .message .status | .message .allocation =>
    exact ⟨_, .same fun k hnames => nomatch hnames⟩

/-! ### Leases and responses -/

/-- Two leases that differ in their ids, which name the same grant. -/
def SameLease (ids : List Nat) (l l' : Lease) : Prop :=
  ids[l'.id]? = some l.id ∧ l' = { l with id := l'.id }

/-- Two responses to a requester that differ in the lease id at most, which names the same grant. -/
inductive SameResponse (ids : List Nat) : String × Response → String × Response → Prop where
  | acquired (requester channel : String) (r : Resource) {k k' : Nat} (hk : ids[k']? = some k) :
      SameResponse ids (requester, .acquired channel k r) (requester, .acquired channel k' r)
  | cancelled (requester : String) :
      SameResponse ids (requester, .cancelled) (requester, .cancelled)

theorem getElem?_append_of_some {j k : Nat} (hk : ids[j]? = some k) (more : List Nat) :
    (ids ++ more)[j]? = some k := by
  rw [List.getElem?_append_left (List.getElem?_eq_some_iff.mp hk).1, hk]

theorem SameLease.append {l l' : Lease} (h : SameLease ids l l') (more : List Nat) :
    SameLease (ids ++ more) l l' :=
  ⟨getElem?_append_of_some h.1 more, h.2⟩

theorem SameResponse.append {x y : String × Response} (h : SameResponse ids x y)
    (more : List Nat) : SameResponse (ids ++ more) x y := by
  cases h with
  | acquired requester channel r hk => exact .acquired _ _ _ (getElem?_append_of_some hk more)
  | cancelled requester => exact .cancelled _

/-- Responses that name the same grants are equal but for the numbers of the leases. -/
theorem map_renumber {responses responses' : List (String × Response)}
    (hsame : List.Forall₂ (SameResponse ids) responses responses') (n : Nat) :
    responses = responses'.map fun x => (x.1, x.2.renumber (rename ids n)) := by
  induction hsame with
  | nil => rfl
  | cons hfirst hrest ih =>
    rw [List.map_cons, ← ih]
    cases hfirst with
    | acquired requester channel r hk => rw [Response.renumber, rename_of_getElem? hk]
    | cancelled requester => rfl

end Coordinator

end LeasePool
