import LeasePool.Text.Blank
import LeasePool.Text.Numeral
import Mathlib.Data.List.Basic
import Mathlib.Data.List.DropRight

/-!
Texts that trimming leaves as they are. They neither begin nor end with a blank, so that whatever
blanks are put around them are all that trimming takes off again. What was trimmed once is such a
text, and so is every decimal numeral.
-/
namespace LeasePool.Text

-- Deciding by the characters of a text takes precedence over going through all that exist.
instance (priority := high) decidableForallMem {p : Char → Prop} [DecidablePred p]
    (s : List Char) : Decidable (∀ c ∈ s, p c) :=
  List.decidableBAll p s

instance (priority := high) decidableForallMemOption {p : Char → Prop} [DecidablePred p]
    (o : Option Char) : Decidable (∀ c ∈ o, p c) :=
  Option.decidableForallMem o

/-- Neither the first nor the last character is blank. -/
def Tight (s : List Char) : Prop :=
  (∀ c ∈ s.head?, isBlank c = false) ∧ ∀ c ∈ s.getLast?, isBlank c = false

instance (s : List Char) : Decidable (Tight s) := inferInstanceAs (Decidable (_ ∧ _))

theorem trimEnd_eq_rdropWhile (s : List Char) : trimEnd s = s.rdropWhile isBlank := rfl

theorem trimStart_eq_self {s : List Char} (h : ∀ c ∈ s.head?, isBlank c = false) :
    trimStart s = s := by
  cases s with
  | nil => rfl
  | cons c rest =>
    have hc : isBlank c = false := h c rfl
    simp [trimStart, hc]

theorem trimEnd_eq_self {s : List Char} (h : ∀ c ∈ s.getLast?, isBlank c = false) :
    trimEnd s = s := by
  rw [trimEnd_eq_rdropWhile, List.rdropWhile_eq_self_iff]
  intro hne
  have hlast := h (s.getLast hne) (List.getLast?_eq_some_getLast hne)
  simp [hlast]

theorem Tight.trim_eq {s : List Char} (h : Tight s) : trim s = s := by
  rw [trim, trimStart_eq_self h.1, trimEnd_eq_self h.2]

/-- What is left after trimming needs no more trimming. -/
theorem tight_trim (s : List Char) : Tight (trim s) := by
  constructor
  · intro c hc
    have hstart := List.head?_dropWhile_not isBlank s
    obtain ⟨rest, hrest⟩ := List.rdropWhile_prefix isBlank (trimStart s)
    have hfirst : (s.dropWhile isBlank).head? = some c := by
      show (trimStart s).head? = some c
      rw [← hrest, List.head?_append]
      exact congrArg (Option.or · rest.head?) hc
    rw [hfirst] at hstart
    simpa using hstart
  · intro c hc
    obtain ⟨hne, rfl⟩ := List.mem_getLast?_eq_getLast hc
    exact Bool.eq_false_iff.mpr (List.rdropWhile_last_not isBlank (trimStart s) hne)

theorem trim_eq_self_iff (s : List Char) : trim s = s ↔ Tight s := by
  constructor
  · intro h
    rw [← h]
    exact tight_trim s
  · exact Tight.trim_eq

/-- Blanks after a text are trimmed off. -/
theorem Tight.trim_append_blanks {s gap : List Char} (h : Tight s) (hne : s ≠ [])
    (hgap : ∀ c ∈ gap, isBlank c = true) : trim (s ++ gap) = s := by
  have hfirst : ∀ c ∈ (s ++ gap).head?, isBlank c = false := by
    intro c hc
    rw [List.head?_append_of_ne_nil s hne] at hc
    exact h.1 c hc
  have hlast : ∀ c ∈ gap.reverse, isBlank c = true :=
    fun c hc => hgap c (List.mem_reverse.mp hc)
  have hdrop : trimEnd (s ++ gap) = trimEnd s := by
    rw [trimEnd, List.reverse_append, List.dropWhile_append_of_pos hlast, trimEnd]
  rw [trim, trimStart_eq_self hfirst, hdrop, trimEnd_eq_self h.2]

/-- Trimming takes blanks off both ends and nothing else. -/
theorem exists_trim_append (s : List Char) :
    ∃ lead gap, s = lead ++ trim s ++ gap ∧ (∀ c ∈ lead, isBlank c = true) ∧
      ∀ c ∈ gap, isBlank c = true := by
  have hstart : s = s.takeWhile isBlank ++ trimStart s := List.takeWhile_append_dropWhile.symm
  have hend : trimStart s = trim s ++ (trimStart s).rtakeWhile isBlank :=
    List.rdropWhile_append_rtakeWhile.symm
  refine ⟨s.takeWhile isBlank, (trimStart s).rtakeWhile isBlank, ?_, ?_, ?_⟩
  · rw [List.append_assoc, ← hend, ← hstart]
  · exact fun c hc => List.mem_takeWhile_imp hc
  · exact fun c hc => List.mem_rtakeWhile_imp hc

/-- A tight text does not begin with blanks. -/
theorem Tight.eq_nil_of_blanks {lead s : List Char} (h : Tight (lead ++ s))
    (hlead : ∀ c ∈ lead, isBlank c = true) : lead = [] := by
  cases lead with
  | nil => rfl
  | cons c rest =>
    have hblank := hlead c List.mem_cons_self
    rw [h.1 c rfl] at hblank
    cases hblank

/-- A text is tight if it begins and ends as tight texts do. -/
theorem Tight.append {s t : List Char} (hs : Tight s) (ht : Tight t) : Tight (s ++ t) := by
  constructor
  · intro c hc
    rcases List.eq_nil_or_concat s with rfl | ⟨_, _, rfl⟩
    · exact ht.1 c hc
    · rw [List.head?_append_of_ne_nil _ (by simp)] at hc
      exact hs.1 c hc
  · intro c hc
    cases t with
    | nil =>
      rw [List.append_nil] at hc
      exact hs.2 c hc
    | cons a rest =>
      rw [List.getLast?_append_of_ne_nil _ (by simp)] at hc
      exact ht.2 c hc

theorem tight_of_forall {s : List Char} (h : ∀ c ∈ s, isBlank c = false) : Tight s :=
  ⟨fun c hc => h c (List.mem_of_mem_head? hc), fun c hc => h c (List.mem_of_mem_getLast? hc)⟩

/-! ### Numerals -/

theorem isBlank_of_isDigit {c : Char} (h : c.isDigit = true) : isBlank c = false := by
  have hrange : 48 ≤ c.toNat ∧ c.toNat ≤ 57 := Char.isDigit_iff_toNat.mp h
  rw [← Bool.not_eq_true, isBlank, CharSet.contains_iff]
  rintro ⟨r, hr, hlow, hhigh⟩
  simp only [blanks, List.mem_cons, List.not_mem_nil, or_false] at hr
  rcases hr with rfl | rfl | rfl | rfl | rfl | rfl | rfl | rfl | rfl | rfl <;>
    simp only at hlow hhigh <;> omega

theorem isDigit_of_mem_repr {n : Nat} {c : Char} (h : c ∈ n.repr.toList) : c.isDigit = true := by
  rw [Nat.toList_repr] at h
  exact Nat.isDigit_of_mem_toDigits (by decide) (by decide) h

theorem repr_ne_nil (n : Nat) : n.repr.toList ≠ [] := by
  rw [Nat.toList_repr]
  exact Nat.toDigits_ne_nil

theorem tight_repr (n : Nat) : Tight n.repr.toList :=
  tight_of_forall fun _ hc => isBlank_of_isDigit (isDigit_of_mem_repr hc)

end LeasePool.Text
