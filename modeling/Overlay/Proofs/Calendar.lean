import Mathlib.Tactic.IntervalCases
import Overlay.Text.Moment

namespace Overlay.Text

/-!
# The calendar

The date of a moment is computed from a number of days by a formula. It is the date of the calendar:
there is such a date, and counting the days up to it gives the number back.

* `daysOfYears`, `Date.days` — days counted by the rules of the calendar;
* `yearOfEra_bounds` — the formula finds the year in which a day lies;
* `Date.ofDay_exact` — and the date.
-/

/-- Whether a year has a leap day. -/
def isLeap (year : Nat) : Bool := year % 4 = 0 && (year % 100 != 0 || year % 400 = 0)

/-- How many days a month has. -/
def daysOfMonth (year month : Nat) : Nat :=
  if month = 2 then (if isLeap year then 29 else 28)
  else if month ∈ [4, 6, 9, 11] then 30 else 31

/-- Days from the first of March of the year 0 to the first of March of another. -/
def daysOfYears (year : Nat) : Nat := 365 * year + year / 4 - year / 100 + year / 400

theorem isLeap_iff (year : Nat) :
    isLeap year = true ↔ year % 4 = 0 ∧ (year % 100 ≠ 0 ∨ year % 400 = 0) := by
  simp [isLeap]

/-- A leap year has a day more. -/
theorem daysOfYears_succ (year : Nat) :
    daysOfYears (year + 1) = daysOfYears year + if isLeap (year + 1) then 366 else 365 := by
  by_cases hleap : isLeap (year + 1) = true
  · obtain ⟨hfourth, hother⟩ := (isLeap_iff _).1 hleap
    rw [if_pos hleap]
    unfold daysOfYears
    omega
  · rw [if_neg hleap]
    unfold daysOfYears
    by_cases hfourth : (year + 1) % 4 = 0
    -- The year ends a century, but no era.
    · have hcentury : (year + 1) % 100 = 0 ∧ (year + 1) % 400 ≠ 0 := by
        by_contra hnot
        exact hleap ((isLeap_iff _).2 ⟨hfourth, by tauto⟩)
      omega
    -- Nothing ends with the year.
    · have hfour : (year + 1) / 4 = year / 4 := by omega
      have hhundred : (year + 1) / 100 = year / 100 := by omega
      have hfourHundred : (year + 1) / 400 = year / 400 := by omega
      rw [hfour, hhundred, hfourHundred]
      omega

/-- Every 400 years the calendar is the same. -/
theorem daysOfYears_add_eras (era year : Nat) :
    daysOfYears (era * 400 + year) = daysOfEra * era + daysOfYears year := by
  unfold daysOfYears daysOfEra
  omega

theorem isLeap_add_eras (era year : Nat) : isLeap (era * 400 + year) = isLeap year := by
  have hfour : (era * 400 + year) % 4 = year % 4 := by omega
  have hhundred : (era * 400 + year) % 100 = year % 100 := by omega
  have hfourHundred : (era * 400 + year) % 400 = year % 400 := by omega
  rw [isLeap, isLeap, hfour, hhundred, hfourHundred]

/-- A day of an era lies in one of its 400 years. -/
theorem yearOfEra_bounds {e : Nat} (h : e < daysOfEra) :
    ∃ y, (e - e / 1460 + e / 36524 - e / 146096) / 365 = y ∧ y < 400 ∧
      daysOfYears y ≤ e ∧ e < daysOfYears (y + 1) := by
  by_cases hlast : e = 146096
  · subst hlast
    exact ⟨399, by decide⟩
  -- Centuries have 36524 days, but the last day of an era belongs to its fourth; groups of four
  -- years have 1461.
  · unfold daysOfEra at h
    obtain ⟨c, q, s, hc, hq, hs, hs', he⟩ : ∃ c q s, c ≤ 3 ∧ q ≤ 24 ∧ 1461 * q + s < 36524 ∧
        s ≤ 1460 ∧ e = 36524 * c + 1461 * q + s :=
      ⟨e / 36524, e % 36524 / 1461, e % 36524 % 1461, by omega⟩
    obtain ⟨k, hk, h1460⟩ : ∃ k, k ≤ 1 ∧ e / 1460 = 25 * c + q + k :=
      ⟨e / 1460 - 25 * c - q, by omega⟩
    obtain ⟨t, ht, hlo, hhi⟩ : ∃ t, t ≤ 3 ∧ 365 * t + k ≤ s ∧ s ≤ 365 * t + k + 364 :=
      ⟨(s - k) / 365, by omega⟩
    have hcentury : e / 36524 = c := by omega
    have hera : e / 146096 = 0 := by omega
    have hyears {q t : Nat} (hq : q ≤ 24) (ht : t ≤ 3) :
        daysOfYears (100 * c + 4 * q + t) = 36524 * c + 1461 * q + 365 * t := by
      have hfourth : (100 * c + 4 * q + t) / 4 = 25 * c + q := by omega
      have hhundredth : (100 * c + 4 * q + t) / 100 = c := by omega
      have hfourHundredth : (100 * c + 4 * q + t) / 400 = 0 := by omega
      rw [daysOfYears, hfourth, hhundredth, hfourHundredth]
      omega
    refine ⟨100 * c + 4 * q + t, ?_, by omega, ?_, ?_⟩
    · rw [h1460, hcentury, hera]
      omega
    · rw [hyears hq ht]
      omega
    -- The next year is in the same group, the next group or the next century.
    · by_cases hgroup : t < 3
      · have hnext := hyears hq (show t + 1 ≤ 3 by omega)
        have hlate : k = 1 → 1364 ≤ s := by omega
        rw [Nat.add_assoc, hnext, he]
        omega
      · by_cases hlater : q < 24
        · have hnext := hyears (show q + 1 ≤ 24 by omega) (show 0 ≤ 3 by omega)
          rw [show 100 * c + 4 * q + t + 1 = 100 * c + 4 * (q + 1) + 0 by omega, hnext, he]
          clear h1460
          omega
        · unfold daysOfYears
          omega

/-- A day of a year, counted from March, lies in one of its months. -/
theorem monthFromMarch_bounds {d : Nat} (h : d < 366) :
    ∃ m, (5 * d + 2) / 153 = m ∧ m < 12 ∧ (153 * m + 2) / 5 ≤ d ∧ d < (153 * (m + 1) + 2) / 5 :=
  ⟨(5 * d + 2) / 153, by omega⟩

/-- Days from the first of March of the year 0 to a date. -/
def Date.days (d : Date) : Nat :=
  if d.month ≤ 2 then daysOfYears (d.year - 1) + (153 * (d.month + 9) + 2) / 5 + (d.day - 1)
  else daysOfYears d.year + (153 * (d.month - 3) + 2) / 5 + (d.day - 1)

/-- A date of the calendar. -/
structure Date.IsValid (d : Date) : Prop where
  /-- There are twelve months. -/
  month : 1 ≤ d.month ∧ d.month ≤ 12
  /-- Each has its days. -/
  day : 1 ≤ d.day ∧ d.day ≤ daysOfMonth d.year d.month

/-- The formula finds the year, counted from March, the day of the year and its month. -/
theorem exists_ofDay (day : Nat) : ∃ year d m, d < (if isLeap (year + 1) then 366 else 365) ∧
    daysOfYears year + d = day + daysBefore1970 ∧
    m < 12 ∧ (153 * m + 2) / 5 ≤ d ∧ d < (153 * (m + 1) + 2) / 5 ∧
    Date.ofDay day = if m < 10 then ⟨year, m + 3, d - (153 * m + 2) / 5 + 1⟩
      else ⟨year + 1, m - 9, d - (153 * m + 2) / 5 + 1⟩ := by
  obtain ⟨y, hy, hlt, hlo, hhi⟩ := yearOfEra_bounds (Nat.mod_lt (day + daysBefore1970)
    (show 0 < daysOfEra by decide))
  have hera := Nat.div_add_mod (day + daysBefore1970) daysOfEra
  have hyear : 365 * y + y / 4 - y / 100 = daysOfYears y := by
    unfold daysOfYears
    omega
  rw [daysOfYears_succ] at hhi
  simp only [Date.ofDay, hy, hyear]
  generalize (day + daysBefore1970) % daysOfEra = e at *
  generalize (day + daysBefore1970) / daysOfEra = era at *
  obtain ⟨d, hd, rfl⟩ : ∃ d, e - daysOfYears y = d ∧ e = daysOfYears y + d :=
    ⟨e - daysOfYears y, rfl, by omega⟩
  have hlength : d < if isLeap (y + 1) then 366 else 365 := Nat.lt_of_add_lt_add_left hhi
  have hlong : (if isLeap (y + 1) then 366 else 365) ≤ 366 := by split <;> decide
  obtain ⟨m, hm, hmonths, hmlo, hmhi⟩ := monthFromMarch_bounds (Nat.lt_of_lt_of_le hlength hlong)
  refine ⟨era * 400 + y, d, m, ?_, ?_, hmonths, hmlo, hmhi, ?_⟩
  · rwa [Nat.add_assoc, isLeap_add_eras]
  · rw [daysOfYears_add_eras, Nat.add_assoc, hera]
  · rw [hd, hm]
    by_cases hspring : m < 10
    · have hlate : ¬ m + 3 ≤ 2 := by omega
      simp [hspring, hlate]
    · have hearly : m - 9 ≤ 2 := by omega
      simp [hspring, hearly]

/-- **The calendar.** A day is given a date that the calendar has, and it is the day of that
date. -/
theorem Date.ofDay_exact (day : Nat) :
    (Date.ofDay day).IsValid ∧ (Date.ofDay day).days = day + daysBefore1970 := by
  obtain ⟨year, d, m, hlength, hdays, hmonths, hmlo, hmhi, hdate⟩ := exists_ofDay day
  rw [hdate, ← hdays]
  by_cases hspring : m < 10
  -- From March to December.
  · rw [if_pos hspring]
    refine ⟨⟨?_, ?_⟩, ?_⟩
    · show 1 ≤ m + 3 ∧ m + 3 ≤ 12
      omega
    · show 1 ≤ d - (153 * m + 2) / 5 + 1 ∧
        d - (153 * m + 2) / 5 + 1 ≤ daysOfMonth year (m + 3)
      interval_cases m <;> simp [daysOfMonth] <;> omega
    · have hlate : ¬ m + 3 ≤ 2 := by omega
      simp only [Date.days, if_neg hlate, Nat.add_sub_cancel]
      omega
  -- January and February.
  · rw [if_neg hspring]
    refine ⟨⟨?_, ?_⟩, ?_⟩
    · show 1 ≤ m - 9 ∧ m - 9 ≤ 12
      omega
    · show 1 ≤ d - (153 * m + 2) / 5 + 1 ∧
        d - (153 * m + 2) / 5 + 1 ≤ daysOfMonth (year + 1) (m - 9)
      obtain rfl | rfl : m = 10 ∨ m = 11 := by omega
      · simp [daysOfMonth]
        omega
      · cases hleap : isLeap (year + 1) <;> simp [daysOfMonth, hleap] at hlength ⊢ <;> omega
    · have hearly : m - 9 ≤ 2 := by omega
      have hback : m - 9 + 9 = m := by omega
      simp only [Date.days, if_pos hearly, Nat.add_sub_cancel, hback]
      omega

/-- The last day of February of a leap year. -/
example : Date.ofDay 19782 = ⟨2024, 2, 29⟩ := by decide

/-- Counting begins with the year 1970. -/
example : Date.days ⟨1970, 1, 1⟩ = daysBefore1970 := by decide

end Overlay.Text
