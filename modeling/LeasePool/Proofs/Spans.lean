import LeasePool.Proofs.SpanForms
import Mathlib.Data.Nat.Basic

/-!
Reading a written span gives the span in whole milliseconds, rounded up, as long as their number
fits in a 64-bit word; a longer span is written in a form that is refused. The unit is the largest
that divides the milliseconds, and nothing but their number decides how a span is written.
-/
namespace LeasePool

namespace Duration

open Text

theorem format_of_millisUp_eq_zero {d : Duration} (h : d.millisUp = 0) : d.format = "0" := by
  simp [format, h]

theorem format_of_millisUp_ne_zero {d : Duration} (h : d.millisUp ≠ 0) :
    d.format = (d.millisUp / (largestMeasure d.millisUp).millis).repr ++
      (largestMeasure d.millisUp).symbol := by
  simp [format, h]

theorem millis_dvd_of_largestMeasure (ms : Nat) : (largestMeasure ms).millis ∣ ms := by
  unfold largestMeasure
  split
  · exact Nat.dvd_of_mod_eq_zero ‹_›
  · split
    · exact Nat.dvd_of_mod_eq_zero ‹_›
    · split
      · exact Nat.dvd_of_mod_eq_zero ‹_›
      · exact Nat.one_dvd ms

theorem le_millis_largestMeasure {ms : Nat} {unit : Measure} (h : unit.millis ∣ ms) :
    unit.millis ≤ (largestMeasure ms).millis := by
  have hmod : ms % unit.millis = 0 := Nat.mod_eq_zero_of_dvd h
  unfold largestMeasure
  cases unit <;> simp only [Measure.millis] at hmod ⊢ <;> split_ifs <;> simp_all

/-- Rounding up adds less than a millisecond. -/
theorem millisUp_bounds (d : Duration) :
    d.nanos ≤ d.millisUp * 1000000 ∧ d.millisUp * 1000000 < d.nanos + 1000000 := by
  simp only [millisUp]
  omega

theorem eq_zero_iff {d : Duration} : d = zero ↔ d.millisUp = 0 := by
  rw [millisUp_eq_zero_iff]
  constructor
  · rintro rfl
    rfl
  · intro h
    cases d
    cases h
    rfl

theorem format_ne_empty (d : Duration) : d.format ≠ "" := by
  by_cases hzero : d.millisUp = 0
  · rw [format_of_millisUp_eq_zero hzero]
    decide
  · rw [format_of_millisUp_ne_zero hzero]
    intro hempty
    have hlist := congrArg String.toList hempty
    rw [String.toList_append, String.toList_empty] at hlist
    exact repr_ne_nil _ (List.append_eq_nil_iff.mp hlist).1

theorem ofUnits?_eq_millisecond (n : Nat) (unit : Measure) :
    ofUnits? n unit = ofUnits? (n * unit.millis) .millisecond := by
  have hone : n * unit.millis * Measure.millisecond.millis = n * unit.millis := Nat.mul_one _
  simp only [ofUnits?, hone]

theorem ofUnits?_millisecond_of_le {ms : Nat} (h : ms ≤ wordMax) :
    ofUnits? ms .millisecond = some (ofMillis ms h) := by
  have hone : ms * Measure.millisecond.millis = ms := Nat.mul_one _
  simp only [ofUnits?, hone, h, dif_pos]

theorem ofUnits?_millisecond_eq_none {ms : Nat} (h : wordMax < ms) :
    ofUnits? ms .millisecond = none := by
  apply dif_neg
  have hone : ms * Measure.millisecond.millis = ms := Nat.mul_one _
  rw [hone]
  exact Nat.not_le_of_lt h

/-- Reading a number of units. -/
theorem parse?_repr_append (n : Nat) (unit : Measure) :
    parse? (n.repr.toList ++ unit.symbol.toList) =
      if n ≤ wordMax then ofUnits? n unit else none := by
  have hsymbol : unit.symbol.toList.map Char.toLower = unit.symbol.toList :=
    map_toLower_of_marks isMark_of_mem_symbol
  have hspells : Spells (n.repr.toList ++ [] ++ unit.symbol.toList) n unit :=
    .marked (numeral_repr n) (by simp) hsymbol
  rw [List.append_nil] at hspells
  have htight : Tight (n.repr.toList ++ unit.symbol.toList) :=
    (tight_repr n).append (tight_of_forall (by cases unit <;> decide))
  apply parse?_of_spells
  rwa [htight.trim_eq]

/-- Reading back a written span rounds it up to whole milliseconds, and refuses it when their
number does not fit in a word. -/
theorem parse?_format (d : Duration) :
    parse? d.format.toList = ofUnits? d.millisUp .millisecond := by
  rcases Nat.eq_zero_or_pos d.millisUp with hzero | hpos
  · rw [format_of_millisUp_eq_zero hzero, hzero]
    decide
  · have hdvd := millis_dvd_of_largestMeasure d.millisUp
    have hunit : 0 < (largestMeasure d.millisUp).millis := Nat.pos_of_dvd_of_pos hdvd hpos
    have hback : d.millisUp / (largestMeasure d.millisUp).millis *
        (largestMeasure d.millisUp).millis = d.millisUp := Nat.div_mul_cancel hdvd
    have hle : d.millisUp / (largestMeasure d.millisUp).millis ≤ d.millisUp := Nat.div_le_self _ _
    rw [format_of_millisUp_ne_zero (by omega), String.toList_append, parse?_repr_append,
      ofUnits?_eq_millisecond, hback]
    apply ite_eq_left_iff.mpr
    intro hlong
    apply Eq.symm
    apply ofUnits?_millisecond_eq_none
    exact Nat.lt_of_lt_of_le (Nat.lt_of_not_le hlong) hle

/-- Whatever is read is a number of whole milliseconds that fits in a word. -/
theorem exists_eq_ofMillis {s : List Char} {d : Duration} (h : parse? s = some d) :
    ∃ n h, d = ofMillis n h := by
  simp only [parse?] at h
  split at h
  · simp only [ofUnits?] at h
    split at h
    · exact ⟨_, _, (Option.some.inj h).symm⟩
    · cases h
  · cases h

theorem isZero_ofMillis (n : Nat) (h : n ≤ wordMax) : (ofMillis n h).isZero = (n == 0) := by
  rw [Bool.eq_iff_iff]
  simp only [isZero, ofMillis, beq_iff_eq]
  omega

/-- A written span that fits comes back in whole milliseconds. -/
theorem parse?_format_of_le {d : Duration} (h : d.millisUp ≤ wordMax) :
    parse? d.format.toList = some (ofMillis d.millisUp h) := by
  rw [parse?_format, ofUnits?_millisecond_of_le h]

/-- A longer one is refused. -/
theorem parse?_format_of_lt {d : Duration} (h : wordMax < d.millisUp) :
    parse? d.format.toList = none := by
  rw [parse?_format, ofUnits?_millisecond_eq_none h]

/-! ### The written form -/

/-- A span is written as a number of a unit, the largest one that divides its milliseconds. -/
structure WrittenIn (d : Duration) (unit : Measure) : Prop where
  dvd : unit.millis ∣ d.millisUp
  largest : ∀ other : Measure, other.millis ∣ d.millisUp → other.millis ≤ unit.millis
  format_eq : d.format = (d.millisUp / unit.millis).repr ++ unit.symbol

theorem writtenIn_largestMeasure {d : Duration} (h : d ≠ zero) :
    d.WrittenIn (largestMeasure d.millisUp) where
  dvd := millis_dvd_of_largestMeasure d.millisUp
  largest _ hother := le_millis_largestMeasure hother
  format_eq := format_of_millisUp_ne_zero fun hzero => h (eq_zero_iff.mpr hzero)

/-- The span of no length is written without a unit. -/
theorem zero_not_writtenIn : ¬ ∃ unit, zero.WrittenIn unit := by
  rintro ⟨unit, h⟩
  have hformat := h.format_eq
  cases unit <;> revert hformat <;> decide

/-- The number and the unit that a written span splits into make up its milliseconds. -/
theorem exists_splitMeasure_format (d : Duration) :
    ∃ n unit, splitMeasure d.format.toList = (n.repr.toList, unit) ∧
      n * unit.millis = d.millisUp := by
  by_cases hzero : d.millisUp = 0
  · refine ⟨0, .second, ?_, by rw [hzero, Nat.zero_mul]⟩
    rw [format_of_millisUp_eq_zero hzero]
    decide
  · refine ⟨_, _, ?_, Nat.div_mul_cancel (millis_dvd_of_largestMeasure d.millisUp)⟩
    rw [format_of_millisUp_ne_zero hzero, String.toList_append]
    exact splitMeasure_append (numeral_repr _).unlettered _

/-- Spans are written alike exactly if they round up to the same millisecond. -/
theorem format_eq_format_iff {d d' : Duration} :
    d.format = d'.format ↔ d.millisUp = d'.millisUp := by
  constructor
  · intro h
    obtain ⟨n, unit, hsplit, hn⟩ := exists_splitMeasure_format d
    obtain ⟨n', unit', hsplit', hn'⟩ := exists_splitMeasure_format d'
    rw [h, hsplit'] at hsplit
    obtain ⟨hrepr, rfl⟩ := Prod.mk.inj hsplit
    have hsame : Numeral n.repr.toList n' := hrepr ▸ numeral_repr n'
    rw [← hn, ← hn', (numeral_repr n).unique hsame]
  · intro h
    simp only [format, h]

/-- What was read comes back when it is written and read again. -/
theorem parse_format_of_parse {s : String} {d : Duration} (h : parse s = .ok d) :
    parse d.format = .ok d := by
  obtain ⟨n, hn, rfl⟩ := exists_eq_ofMillis (parse_eq_ok_iff.mp h)
  have hfits : (ofMillis n hn).millisUp ≤ wordMax := (millisUp_ofMillis n hn).symm ▸ hn
  rw [parse_eq_ok_iff, parse?_format_of_le hfits]
  simp only [millisUp_ofMillis]

/-- What writing a span and reading it again comes to. -/
structure RoundsUp (d : Duration) : Prop where
  rounded : d.nanos ≤ d.millisUp * 1000000 ∧ d.millisUp * 1000000 < d.nanos + 1000000
  read : ∀ h : d.millisUp ≤ wordMax, parse d.format = .ok (ofMillis d.millisUp h) ∧
    (ofMillis d.millisUp h = zero ↔ d = zero)
  refused : wordMax < d.millisUp → parse d.format = .error ⟨d.format⟩
  unit : if d = zero then d.format = "0" else ∃ unit, d.WrittenIn unit
  alike : ∀ other : Duration, d.format = other.format ↔ d.millisUp = other.millisUp

/-- Writing a span and reading it again rounds it up to whole milliseconds, and fails when their
number does not fit in a word. What was read stays as it is. -/
theorem format_roundsUp :
    (∀ d : Duration, d.RoundsUp) ∧
      ∀ (s : String) (d : Duration), parse s = .ok d → parse d.format = .ok d := by
  refine ⟨fun d => ⟨d.millisUp_bounds, fun h => ⟨?_, ?_⟩, fun h => ?_, ?_, fun other => ?_⟩,
    fun s d => parse_format_of_parse⟩
  · exact parse_eq_ok_iff.mpr (parse?_format_of_le h)
  · rw [eq_zero_iff, eq_zero_iff, millisUp_ofMillis]
  · exact parse_eq_error_iff.mpr ⟨rfl, parse?_format_of_lt h⟩
  · split
    case isTrue hzero => exact format_of_millisUp_eq_zero (eq_zero_iff.mp hzero)
    case isFalse hzero => exact ⟨_, writtenIn_largestMeasure hzero⟩
  · exact format_eq_format_iff

/-- A second and a half and a nanosecond more, and what the text of two minutes is read as. -/
theorem format_roundsUp_fraction :
    (⟨1500000001, by decide⟩ : Duration).format = "1501ms" ∧
      (⟨1500000001, by decide⟩ : Duration).RoundsUp ∧
      parse " 120 S" = .ok (ofMillis 120000 (by decide)) ∧
      (ofMillis 120000 (by decide)).format = "2m" ∧
      parse (ofMillis 120000 (by decide)).format = .ok (ofMillis 120000 (by decide)) := by
  have hread : parse " 120 S" = .ok (ofMillis 120000 (by decide)) := by decide
  exact ⟨by decide, format_roundsUp.1 _, hread, by decide, format_roundsUp.2 _ _ hread⟩

end Duration

end LeasePool
