import LeasePool.Timestamp
import Mathlib.Tactic.Common

/-!
The date of a day number is a date of the calendar, and counting the days up to it gives the number
back. Years are counted from March here, so that a leap day ends one: an era of 400 years has four
centuries, a century 25 leap cycles, and a cycle four years, of which the last one has the leap day
unless it ends a century and not the era.
-/
namespace LeasePool.Date

/-! ### Days of an era -/

/-- A day of an era, by century, leap cycle, year and day of the year. -/
structure EraDay where
  century : Int
  cycle : Int
  year : Int
  day : Int
  century_range : 0 ≤ century ∧ century ≤ 3
  cycle_range : 0 ≤ cycle ∧ cycle ≤ 24
  year_range : 0 ≤ year ∧ year ≤ 3
  day_range : 0 ≤ day ∧ day ≤ 365
  leap : day = 365 → year = 3 ∧ (cycle < 24 ∨ century = 3)

namespace EraDay

/-- The number of the day in its era. -/
def number (e : EraDay) : Int := 36524 * e.century + 1461 * e.cycle + 365 * e.year + e.day

/-- The year of the era that the day is in. -/
def yearOfEra (e : EraDay) : Int := 100 * e.century + 4 * e.cycle + e.year

theorem number_lt (e : EraDay) : 0 ≤ e.number ∧ e.number < 146097 := by
  obtain ⟨b, q, k, d, hb, hq, hk, hd, hleap⟩ := e
  simp only [number]
  omega

/-- Every number below that of a full era is that of a day. -/
theorem exists_number_eq {n : Int} (hlow : 0 ≤ n) (hhigh : n < 146097) :
    ∃ e : EraDay, e.number = n := by
  -- a division by the length of a part puts the leap day that ends a longer part into one too many
  obtain ⟨b, hb, hr⟩ : ∃ b : Int, (0 ≤ b ∧ b ≤ 3) ∧ 36524 * b ≤ n ∧
      (n < 36524 * b + 36524 ∨ b = 3 ∧ n = 36524 * b + 36524) := by
    by_cases hlast : n = 146096
    · exact ⟨3, by omega, by omega, by omega⟩
    · exact ⟨n / 36524, by omega, by omega, by omega⟩
  obtain ⟨q, hq, hs⟩ : ∃ q : Int, (0 ≤ q ∧ q ≤ 24) ∧ 36524 * b + 1461 * q ≤ n ∧
      n ≤ 36524 * b + 1461 * q + 1460 ∧
      (n = 36524 * b + 1461 * q + 1460 → q < 24 ∨ b = 3) := by
    by_cases hlast : n = 36524 * b + 36524
    · exact ⟨24, by omega, by omega, by omega, by omega⟩
    · exact ⟨(n - 36524 * b) / 1461, by omega, by omega, by omega, by omega⟩
  obtain ⟨k, hk, hd⟩ : ∃ k : Int, (0 ≤ k ∧ k ≤ 3) ∧ 36524 * b + 1461 * q + 365 * k ≤ n ∧
      n ≤ 36524 * b + 1461 * q + 365 * k + 365 ∧
      (n = 36524 * b + 1461 * q + 365 * k + 365 → k = 3) := by
    by_cases hlast : n = 36524 * b + 1461 * q + 1460
    · exact ⟨3, by omega, by omega, by omega, by omega⟩
    · exact ⟨(n - (36524 * b + 1461 * q)) / 365, by omega, by omega, by omega, by omega⟩
  obtain ⟨d, hday⟩ : ∃ d, n = 36524 * b + 1461 * q + 365 * k + d :=
    ⟨n - (36524 * b + 1461 * q + 365 * k), by omega⟩
  exact ⟨⟨b, q, k, d, hb, hq, hk, by omega, by omega⟩, hday.symm⟩

/-- The year of the era is found in one division, after the leap days before it are taken off. -/
theorem yearOfEra_eq (e : EraDay) :
    (e.number - e.number / 1460 + e.number / 36524 - e.number / 146096) / 365 = e.yearOfEra := by
  obtain ⟨b, q, k, d, hb, hq, hk, hd, hleap⟩ := e
  simp only [number, yearOfEra]
  obtain ⟨n, hn⟩ : ∃ n, n = 36524 * b + 1461 * q + 365 * k + d := ⟨_, rfl⟩
  rw [← hn]
  by_cases hlast : n = 146096
  · have hb3 : b = 3 := by omega
    have hq24 : q = 24 := by omega
    have hk3 : k = 3 := by omega
    rw [hlast, hb3, hq24, hk3]
    decide
  · have hera : n / 146096 = 0 := by omega
    have hcentury : n / 36524 = b := by omega
    have hdays : n / 1460 = 25 * b + q ∨ n / 1460 = 25 * b + q + 1 := by omega
    rw [hera, hcentury]
    rcases hdays with hdays | hdays
    · have hd364 : d ≤ 364 := by omega
      rw [hdays]
      omega
    · have hk3 : k = 3 := by omega
      have hd1 : 1 ≤ d := by omega
      rw [hdays]
      omega

/-- What is left of the number is the day of the year. -/
theorem day_eq (e : EraDay) :
    e.number - (365 * e.yearOfEra + e.yearOfEra / 4 - e.yearOfEra / 100) = e.day := by
  obtain ⟨b, q, k, d, hb, hq, hk, hd, hleap⟩ := e
  simp only [number, yearOfEra]
  have hcycles : (100 * b + 4 * q + k) / 4 = 25 * b + q := by omega
  have hcenturies : (100 * b + 4 * q + k) / 100 = b := by omega
  rw [hcycles, hcenturies]
  omega

end EraDay

/-! ### Months -/

/-- The date so many days after the first of March of a year. -/
def afterMarch (year day : Int) : Date :=
  let mp := (5 * day + 2) / 153
  let month := if mp < 10 then mp + 3 else mp - 9
  ⟨year + (if month ≤ 2 then 1 else 0), month.toNat, (day - (153 * mp + 2) / 5 + 1).toNat⟩

theorem toDays_afterMarch (year : Int) {day : Int} (h : 0 ≤ day ∧ day ≤ 365) :
    (afterMarch year day).toDays =
      365 * year + year / 4 - year / 100 + year / 400 + day - 719468 := by
  obtain ⟨mp, hmp⟩ : ∃ mp, mp = (5 * day + 2) / 153 := ⟨_, rfl⟩
  have hrange : 0 ≤ mp ∧ mp ≤ 11 := by omega
  have hday : 0 ≤ day - (153 * mp + 2) / 5 + 1 := by omega
  have hcast : ((day - (153 * mp + 2) / 5 + 1).toNat : Int) = day - (153 * mp + 2) / 5 + 1 := by
    omega
  simp only [afterMarch, ← hmp, toDays, hcast]
  by_cases hearly : mp < 10
  · have hmonth : ¬ mp + 3 ≤ 2 := by omega
    have hnat : ¬ (mp + 3).toNat ≤ 2 := by omega
    have hback : (((mp + 3).toNat + 9) % 12 : Nat) = mp := by omega
    simp only [hearly, hmonth, hnat, if_true, if_false, hback, Int.add_zero]
    omega
  · have hmonth : mp - 9 ≤ 2 := by omega
    have hnat : (mp - 9).toNat ≤ 2 := by omega
    have hback : (((mp - 9).toNat + 9) % 12 : Nat) = mp := by omega
    simp only [hearly, hmonth, hnat, if_true, if_false, hback, Int.add_sub_cancel]
    omega

theorem valid_afterMarch {year day : Int} (h : 0 ≤ day ∧ day ≤ 365)
    (hleap : day = 365 → isLeap (year + 1) = true) : (afterMarch year day).Valid := by
  obtain ⟨mp, hmp⟩ : ∃ mp, mp = (5 * day + 2) / 153 := ⟨_, rfl⟩
  have hrange : mp = 0 ∨ mp = 1 ∨ mp = 2 ∨ mp = 3 ∨ mp = 4 ∨ mp = 5 ∨ mp = 6 ∨ mp = 7 ∨ mp = 8 ∨
      mp = 9 ∨ mp = 10 ∨ mp = 11 := by omega
  simp only [Valid, afterMarch, ← hmp]
  rcases hrange with rfl | rfl | rfl | rfl | rfl | rfl | rfl | rfl | rfl | rfl | rfl | rfl
  -- February comes last, and its length depends on the year
  case inr.inr.inr.inr.inr.inr.inr.inr.inr.inr.inr =>
    by_cases hday : day = 365
    · simp [daysInMonth, hleap hday, hday]
    · have hfebruary : 28 ≤ daysInMonth (year + 1) 2 := by
        simp only [daysInMonth]
        split <;> decide
      simp
      omega
  all_goals
    simp [daysInMonth]
    omega

/-! ### Dates of days -/

/-- The date of a day, by its era and the day of the era. -/
theorem ofDays_eq_afterMarch {days era : Int} {e : EraDay}
    (h : days + 719468 = 146097 * era + e.number) :
    ofDays days = afterMarch (e.yearOfEra + era * 400) e.day := by
  have hrange := e.number_lt
  have hera : (days + 719468) / 146097 = era := by omega
  have hdoe : (days + 719468) % 146097 = e.number := by omega
  simp only [ofDays, hera, hdoe, e.yearOfEra_eq, e.day_eq, afterMarch]

theorem exists_eraDay (days : Int) :
    ∃ (era : Int) (e : EraDay), days + 719468 = 146097 * era + e.number := by
  obtain ⟨e, he⟩ := EraDay.exists_number_eq (n := (days + 719468) % 146097) (by omega) (by omega)
  exact ⟨(days + 719468) / 146097, e, by omega⟩

/-- Counting the days up to the date of a day gives the day. -/
theorem toDays_ofDays (days : Int) : (ofDays days).toDays = days := by
  obtain ⟨era, e, he⟩ := exists_eraDay days
  rw [ofDays_eq_afterMarch he, toDays_afterMarch _ e.day_range]
  have hday := e.day_eq
  have hyear : 0 ≤ e.yearOfEra ∧ e.yearOfEra < 400 := by
    obtain ⟨b, q, k, d, hb, hq, hk, hd, hleap⟩ := e
    simp only [EraDay.yearOfEra]
    omega
  omega

/-- The date of a day is a date of the calendar. -/
theorem valid_ofDays (days : Int) : (ofDays days).Valid := by
  obtain ⟨era, e, he⟩ := exists_eraDay days
  rw [ofDays_eq_afterMarch he]
  apply valid_afterMarch e.day_range
  intro hday
  obtain ⟨b, q, k, d, hb, hq, hk, hd, hleap⟩ := e
  simp only [EraDay.yearOfEra, isLeap, Bool.and_eq_true, Bool.or_eq_true, beq_iff_eq, bne_iff_ne]
  have hends := hleap hday
  omega

end LeasePool.Date
