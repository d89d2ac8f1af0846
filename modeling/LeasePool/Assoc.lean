/-!
Finite maps as lists of pairs. A key that is put again keeps its place and takes the new value; a
new key goes to the end.
-/
namespace LeasePool

/-- A finite map in the order in which its keys were first put. -/
abbrev Assoc (κ : Type) (α : Type) := List (κ × α)

namespace Assoc

variable {κ α : Type} [DecidableEq κ]

def get? (key : κ) : Assoc κ α → Option α
  | [] => none
  | (k, a) :: rest => if k = key then some a else get? key rest

def put (key : κ) (value : α) : Assoc κ α → Assoc κ α
  | [] => [(key, value)]
  | (k, a) :: rest => if k = key then (key, value) :: rest else (k, a) :: put key value rest

def erase (key : κ) (m : Assoc κ α) : Assoc κ α := m.filter fun entry => entry.1 ≠ key

def keys (m : Assoc κ α) : List κ := m.map Prod.fst

def contains (key : κ) (m : Assoc κ α) : Bool := (get? key m).isSome

@[simp] theorem get?_nil (key : κ) : get? key ([] : Assoc κ α) = none := rfl

theorem get?_put (key other : κ) (value : α) (m : Assoc κ α) :
    get? other (put key value m) = if key = other then some value else get? other m := by
  induction m with
  | nil => simp [put, get?]
  | cons entry rest ih =>
    obtain ⟨k, a⟩ := entry
    by_cases hk : k = key
    · subst hk
      by_cases ho : k = other <;> simp [put, get?, ho]
    · by_cases ho : k = other
      · subst ho
        simp [put, get?, hk, Ne.symm hk]
      · simp [put, get?, hk, ho, ih]

theorem get?_erase (key other : κ) (m : Assoc κ α) :
    get? other (erase key m) = if key = other then none else get? other m := by
  induction m with
  | nil => simp [erase]
  | cons entry rest ih =>
    obtain ⟨k, a⟩ := entry
    simp only [erase] at ih
    by_cases hk : k = key
    · subst hk
      by_cases ho : k = other
      · subst ho
        simpa [erase] using ih
      · simpa [erase, get?, ho] using ih
    · by_cases ho : k = other
      · subst ho
        simp [erase, get?, hk, Ne.symm hk]
      · simpa [erase, get?, hk, ho] using ih

theorem get?_eq_none_iff (key : κ) (m : Assoc κ α) : get? key m = none ↔ key ∉ keys m := by
  induction m with
  | nil => simp [keys]
  | cons entry rest ih =>
    obtain ⟨k, a⟩ := entry
    by_cases hk : k = key
    · simp [get?, keys, hk]
    · simp only [get?, hk, if_false, ih, keys, List.map_cons, List.mem_cons, not_or]
      exact ⟨fun h => ⟨Ne.symm hk, h⟩, fun h => h.2⟩

theorem put_of_get?_eq_none {key : κ} {m : Assoc κ α} (value : α) (h : get? key m = none) :
    put key value m = m ++ [(key, value)] := by
  induction m with
  | nil => rfl
  | cons entry rest ih =>
    obtain ⟨k, a⟩ := entry
    by_cases hk : k = key
    · simp [get?, hk] at h
    · simp only [get?, hk, if_false] at h
      simp [put, hk, ih h]

theorem erase_of_get?_eq_none {key : κ} {m : Assoc κ α} (h : get? key m = none) :
    erase key m = m := by
  apply List.filter_eq_self.mpr
  intro entry hentry
  have hkey := (get?_eq_none_iff key m).mp h
  have hne : entry.1 ≠ key := by
    rintro rfl
    exact hkey (List.mem_map_of_mem hentry)
  simpa using hne

theorem mem_of_get? {key : κ} {a : α} {m : Assoc κ α} (h : get? key m = some a) :
    (key, a) ∈ m := by
  induction m with
  | nil => simp at h
  | cons entry rest ih =>
    obtain ⟨k, b⟩ := entry
    by_cases hk : k = key
    · simp only [get?, hk, if_true, Option.some.injEq] at h
      simp [hk, h]
    · simp only [get?, hk, if_false] at h
      exact List.mem_cons_of_mem _ (ih h)

theorem get?_of_mem {key : κ} {a : α} {m : Assoc κ α} (hnodup : (keys m).Nodup)
    (h : (key, a) ∈ m) : get? key m = some a := by
  induction m with
  | nil => simp at h
  | cons entry rest ih =>
    obtain ⟨k, b⟩ := entry
    simp only [keys, List.map_cons, List.nodup_cons] at hnodup
    rcases List.mem_cons.mp h with heq | hrest
    · obtain ⟨rfl, rfl⟩ := Prod.mk.inj heq
      simp [get?]
    · have hk : k ≠ key := by
        rintro rfl
        exact hnodup.1 (List.mem_map_of_mem hrest)
      simp only [get?, hk, if_false]
      exact ih hnodup.2 hrest

theorem keys_erase (key : κ) (m : Assoc κ α) :
    keys (erase key m) = (keys m).filter fun k => k ≠ key := by
  simp only [keys, erase, List.filter_map]
  rfl

theorem keys_put_of_mem {key : κ} {m : Assoc κ α} (value : α) (h : key ∈ keys m) :
    keys (put key value m) = keys m := by
  induction m with
  | nil => cases h
  | cons entry rest ih =>
    obtain ⟨k, a⟩ := entry
    by_cases hk : k = key
    · simp [put, keys, hk]
    · have hrest : key ∈ keys rest := by
        rcases List.mem_cons.mp h with heq | hrest
        · exact absurd heq.symm hk
        · exact hrest
      have hih := ih hrest
      simp only [keys] at hih
      simp [put, keys, hk, hih]

theorem nodup_keys_put {m : Assoc κ α} (key : κ) (value : α) (h : (keys m).Nodup) :
    (keys (put key value m)).Nodup := by
  by_cases hkey : key ∈ keys m
  · rwa [keys_put_of_mem value hkey]
  · rw [put_of_get?_eq_none value ((get?_eq_none_iff key m).mpr hkey), keys, List.map_append]
    refine List.nodup_append.mpr ⟨h, List.pairwise_singleton _ key, fun k hk k' hk' heq => ?_⟩
    rw [heq, List.mem_singleton.mp hk'] at hk
    exact hkey hk

theorem length_erase {key : κ} {a : α} {m : Assoc κ α} (hnodup : (keys m).Nodup)
    (h : get? key m = some a) : (erase key m).length + 1 = m.length := by
  induction m with
  | nil => simp at h
  | cons entry rest ih =>
    obtain ⟨k, b⟩ := entry
    simp only [keys, List.map_cons, List.nodup_cons] at hnodup
    by_cases hk : k = key
    · subst hk
      have hrest : erase k rest = rest :=
        erase_of_get?_eq_none ((get?_eq_none_iff k rest).mpr hnodup.1)
      have hhead : erase k ((k, b) :: rest) = erase k rest := by simp [erase]
      rw [hhead, hrest, List.length_cons]
    · simp only [get?, hk, if_false] at h
      have hhead : erase key ((k, b) :: rest) = (k, b) :: erase key rest := by simp [erase, hk]
      rw [hhead, List.length_cons, List.length_cons, ih hnodup.2 h]

end Assoc

end LeasePool
